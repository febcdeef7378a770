import SM.Lib.HeadedFrames
import SM.Utils.Base64Heads

/-!
# Splitting messages behind base64 heads

`FixHeaderSplit` and `FixHeaderSplit3` take messages from what has arrived, `FixHeaderSplit2` and
`FixHeaderSplit4` look at one message in a view. `splits_prompt_iff` says for which chunks the first
two deliver every message in time, and `views_agree_iff` for which views the others agree with
them. That a splitter is called until it returns false, and not only as often as `receive` bounds
it, is `drain_splitters`.
-/

namespace SM.Network

open SM.Lib.HeadedFrames SM.Utils

/-- The value returned, and the references afterwards. A view stays as it is. -/
structure SplitEnd (Head : Type) where
  bret : Bool
  msg : Bytes
  head : Head
  dst : Bytes
deriving DecidableEq

section Splitters

variable {Head : Type} (base64 : Base64)

/-- The end of the splitters which erase what they take. -/
def splitBody (len : Head → UInt32) (msg : Bytes) (head : Head) (dst : Bytes) : SplitEnd Head :=
  if !msg.isEmpty && (len head).toNat ≤ msg.length then
    ⟨true, msg.drop (len head).toNat, head, msg.take (len head).toNat⟩
  else ⟨false, msg, head, dst⟩

/-- The end of the splitters of a view, which take all that follows the head. -/
def viewBody (headLen : Nat) (len : Head → UInt32) (msg : Bytes) (head : Head) (dst : Bytes) :
    SplitEnd Head :=
  if !msg.isEmpty && headLen ≤ msg.length then
    if (len head).toNat ≤ msg.length then ⟨true, msg, head, msg.drop headLen⟩
    else ⟨false, msg, head, dst⟩
  else ⟨false, msg, head, dst⟩

/-- `MainCmdBegin` stands for a head that has to be read. -/
def fixHeaderSplit (msg : Bytes) (head : CmdHead) (dst : Bytes) : SplitEnd CmdHead :=
  if head.mainc = 1 then
    if msg.length < 12 then ⟨false, msg, head, dst⟩
    else splitBody CmdHead.len (msg.drop 12) (parsecmd base64 (msg.take 12)) dst
  else splitBody CmdHead.len msg head dst

def fixHeaderSplit2 (msg : Bytes) (head : CmdHead) (dst : Bytes) : SplitEnd CmdHead :=
  if head.mainc = 1 then
    if msg.length < 12 then ⟨false, msg, head, dst⟩
    else viewBody 12 CmdHead.len msg (parsecmd base64 (msg.take 12)) dst
  else viewBody 12 CmdHead.len msg head dst

/-- Every call reads a head. -/
def fixHeaderSplit3 (msg : Bytes) (head : CmdSubHead) (dst : Bytes) : SplitEnd CmdSubHead :=
  if msg.length < 8 then ⟨false, msg, head, dst⟩
  else splitBody CmdSubHead.len (msg.drop 8) (parsesubcmd base64 (msg.take 8)) dst

def fixHeaderSplit4 (msg : Bytes) (head : CmdSubHead) (dst : Bytes) : SplitEnd CmdSubHead :=
  if msg.length < 8 then ⟨false, msg, head, dst⟩
  else viewBody 8 CmdSubHead.len msg (parsesubcmd base64 (msg.take 8)) dst

/-- `MessagePackFuncs::PackMainAssPack` -/
def packMainAssPack (head : CmdHead) (msg : Bytes) : Bytes :=
  packcmdrep base64 head.mainc head.assc.toInt16 msg.length ++ msg

/-- A splitter as it is called between two chunks. Where it returns false nothing reads `dst`. -/
def asCall (splitter : Bytes → Head → Bytes → SplitEnd Head) : Call Head UInt8 :=
  fun pending =>
    let ended := splitter pending.buffer pending.head []
    (if ended.bret then some (ended.head, ended.dst) else none, ⟨ended.msg, ended.head⟩)

/-! ## Messages -/

/-- A main and an assistant command, and a body whose length fits into a head. -/
structure CommandMessage where
  mainc : UInt16
  assc : UInt16
  body : Bytes
  short : body.length < 0x100000000

/-- What a splitter should make of a message: its head and its body. -/
def CommandMessage.split (message : CommandMessage) : Message CmdHead UInt8 :=
  (⟨message.mainc.toNat, message.assc, UInt32.ofNat message.body.length⟩, message.body)

def CommandMessage.packed (message : CommandMessage) : Bytes :=
  packMainAssPack base64 message.split.1 message.body

/-- An assistant command and a body. -/
structure SubMessage where
  assc : UInt16
  body : Bytes
  short : body.length < 0x100000000

def SubMessage.split (message : SubMessage) : Message CmdSubHead UInt8 :=
  (⟨message.assc, UInt32.ofNat message.body.length⟩, message.body)

/-- A message behind the head which `parsesubcmd` reads. -/
def SubMessage.packed (message : SubMessage) : Bytes :=
  base64.encode (htons message.assc ++ htonl (UInt32.ofNat message.body.length)) ++ message.body

/-! ## The splitters as formats -/

def cmdFormat : Format CmdHead UInt8 where
  width := 12
  encode head := packcmdrep base64 head.mainc head.assc.toInt16 head.len.toNat
  parse := parsecmd base64
  len head := head.len.toNat
  initial := {}
  kept head := head.mainc ≠ 1
  width_pos := by decide
  kept_initial := rfl

def subFormat : Format CmdSubHead UInt8 where
  width := 8
  encode head := base64.encode (htons head.assc ++ htonl head.len)
  parse := parsesubcmd base64
  len head := head.len.toNat
  initial := {}
  kept _ := false
  width_pos := by decide
  kept_initial := rfl

end Splitters

variable {base64 : Base64}

/-- The end of a splitter takes a body as its format does. -/
theorem splitBody_eq {Head : Type} (format : Format Head UInt8) (len : Head → UInt32)
    (declares : ∀ head, format.len head = (len head).toNat) (msg dst : Bytes) (head : Head) :
    format.takeBody ⟨msg, head⟩ =
      let ended := splitBody len msg head dst
      (if ended.bret then some (ended.head, ended.dst) else none, ⟨ended.msg, ended.head⟩) := by
  simp only [Format.takeBody, splitBody, declares, Bool.and_eq_true, Bool.not_eq_true',
    List.isEmpty_eq_false_iff, decide_eq_true_eq]
  split <;> rfl

/-- The first splitter is the one of its format. -/
theorem asCall_fixHeaderSplit :
    asCall (fixHeaderSplit base64) = (cmdFormat base64).split := by
  funext pending
  simp only [asCall, fixHeaderSplit, Format.split]
  by_cases marked : pending.head.mainc = 1
  · have unkept : (cmdFormat base64).kept pending.head = false := by
      simp [cmdFormat, marked]
    by_cases short : pending.buffer.length < 12
    · have shortHead : pending.buffer.length < (cmdFormat base64).width := short
      simp [marked, short, unkept, shortHead]
    · have longHead : ¬pending.buffer.length < (cmdFormat base64).width := short
      simp only [marked, short, unkept, longHead, if_true, if_false, Bool.false_eq_true]
      exact (splitBody_eq (cmdFormat base64) CmdHead.len (fun _ => rfl) _ [] _).symm
  · have kept : (cmdFormat base64).kept pending.head = true := by
      simp [cmdFormat, marked]
    simp only [marked, kept, if_true, if_false]
    exact (splitBody_eq (cmdFormat base64) CmdHead.len (fun _ => rfl) _ [] _).symm

/-- The third splitter is the one of its format. -/
theorem asCall_fixHeaderSplit3 :
    asCall (fixHeaderSplit3 base64) = (subFormat base64).split := by
  funext pending
  have unkept : (subFormat base64).kept pending.head = false := rfl
  simp only [asCall, fixHeaderSplit3, Format.split, unkept, Bool.false_eq_true, if_false]
  by_cases short : pending.buffer.length < 8
  · have shortHead : pending.buffer.length < (subFormat base64).width := short
    simp [short, shortHead]
  · have longHead : ¬pending.buffer.length < (subFormat base64).width := short
    simp only [short, longHead, if_false]
    exact (splitBody_eq (subFormat base64) CmdSubHead.len (fun _ => rfl) _ [] _).symm

/-- A message with both commands reads back. -/
theorem proper_cmdFormat (message : CommandMessage) :
    (cmdFormat base64).Proper message.split where
  width := by
    show (packcmdrep base64 _ _ _).length = 12
    rw [packcmdrep, base64.length_encode]
    simp
  parse := by
    show parsecmd base64 (packcmdrep base64 _ _ _) = _
    rw [CommandMessage.split, parsecmd_packcmdrep, UInt16.toUInt16_toInt16, UInt32.ofNat_toNat]
  len := UInt32.toNat_ofNat_of_lt' message.short

/-- A message with an assistant command reads back. -/
theorem proper_subFormat (message : SubMessage) : (subFormat base64).Proper message.split where
  width := by
    show (base64.encode _).length = 8
    rw [base64.length_encode]
    simp
  parse := parsesubcmd_encode _ _
  len := UInt32.toNat_ofNat_of_lt' message.short

/-- The frame of a message with both commands is the message packed. -/
theorem frame_cmdFormat (message : CommandMessage) :
    (cmdFormat base64).frame message.split = message.packed base64 := by
  have length : (UInt32.ofNat message.body.length).toNat = message.body.length :=
    UInt32.toNat_ofNat_of_lt' message.short
  simp [Format.frame, cmdFormat, CommandMessage.packed, packMainAssPack, CommandMessage.split,
    length]

/-- Frames of messages with both commands are the messages packed. -/
theorem frames_cmdFormat (messages : List CommandMessage) :
    (cmdFormat base64).frames (messages.map CommandMessage.split) =
      messages.flatMap (CommandMessage.packed base64) := by
  rw [Format.frames, List.flatMap_map, funext frame_cmdFormat]

/-- Frames of messages with an assistant command are the messages packed. -/
theorem frames_subFormat (messages : List SubMessage) :
    (subFormat base64).frames (messages.map SubMessage.split) =
      messages.flatMap (SubMessage.packed base64) := by
  rw [Format.frames, List.flatMap_map]
  rfl

/-- A splitter is called until it returns false: no bound from that of `receive` on changes what is
taken. -/
theorem drain_splitters {fuel : Nat} (buffer : Bytes) (enough : buffer.length + 2 ≤ fuel) :
    (∀ head, drain (asCall (fixHeaderSplit base64)) {} fuel ⟨buffer, head⟩ =
        drain (asCall (fixHeaderSplit base64)) {} (buffer.length + 2) ⟨buffer, head⟩) ∧
      ∀ head, drain (asCall (fixHeaderSplit3 base64)) {} fuel ⟨buffer, head⟩ =
        drain (asCall (fixHeaderSplit3 base64)) {} (buffer.length + 2) ⟨buffer, head⟩ := by
  rw [asCall_fixHeaderSplit, asCall_fixHeaderSplit3]
  constructor
  · intro head
    exact @Format.drain_stable _ _ (cmdFormat base64) ⟨buffer, head⟩ _ _ enough (Nat.le_refl _)
  · intro head
    exact @Format.drain_stable _ _ (subFormat base64) ⟨buffer, head⟩ _ _ enough (Nat.le_refl _)

/-- The splitters deliver every message when its last byte has come, if and only if no chunk ends
behind the head of an empty message, or inside of the body of one whose head is forgotten: that of
`MainCmdBegin`, or any head of `FixHeaderSplit3`. -/
theorem splits_prompt_iff (base64 : Base64) :
    (∀ (messages : List CommandMessage) (chunks : List Bytes),
      chunks.flatten = messages.flatMap (CommandMessage.packed base64) →
        ((cmdFormat base64).Prompt (asCall (fixHeaderSplit base64))
            (messages.map CommandMessage.split) chunks ↔
          ∀ taken, taken <+: chunks →
            ¬(cmdFormat base64).Stalls (messages.map CommandMessage.split)
              taken.flatten.length)) ∧
      ∀ (messages : List SubMessage) (chunks : List Bytes),
        chunks.flatten = messages.flatMap (SubMessage.packed base64) →
          ((subFormat base64).Prompt (asCall (fixHeaderSplit3 base64))
              (messages.map SubMessage.split) chunks ↔
            ∀ taken, taken <+: chunks →
              ¬(subFormat base64).Stalls (messages.map SubMessage.split)
                taken.flatten.length) := by
  constructor
  · intro messages chunks cut
    rw [asCall_fixHeaderSplit]
    rw [← frames_cmdFormat] at cut
    refine Format.prompt_iff ?_ cut
    exact List.forall_mem_map.mpr fun message _ => proper_cmdFormat message
  · intro messages chunks cut
    rw [asCall_fixHeaderSplit3]
    rw [← frames_subFormat] at cut
    refine Format.prompt_iff ?_ cut
    exact List.forall_mem_map.mpr fun message _ => proper_subFormat message

/-- A body of one byte behind either head, in two chunks and in one. -/
theorem splits_prompt_iff_whole :
    ((cmdFormat rfc4648).Prompt (asCall (fixHeaderSplit rfc4648))
        ([⟨5, 2, [7], by decide⟩].map CommandMessage.split) [packcmdrep rfc4648 5 2 1, [7]] ↔
      ∀ taken, taken <+: [packcmdrep rfc4648 5 2 1, [7]] →
        ¬(cmdFormat rfc4648).Stalls ([⟨5, 2, [7], by decide⟩].map CommandMessage.split)
          taken.flatten.length) ∧
      ((subFormat rfc4648).Prompt (asCall (fixHeaderSplit3 rfc4648))
          ([⟨2, [7], by decide⟩].map SubMessage.split)
          [rfc4648.encode [0, 2, 0, 0, 0, 1] ++ [7]] ↔
        ∀ taken, taken <+: [rfc4648.encode [0, 2, 0, 0, 0, 1] ++ [7]] →
          ¬(subFormat rfc4648).Stalls ([⟨2, [7], by decide⟩].map SubMessage.split)
            taken.flatten.length) :=
  ⟨(splits_prompt_iff rfc4648).1 [⟨5, 2, [7], by decide⟩]
      [packcmdrep rfc4648 5 2 1, [7]] (by decide),
    (splits_prompt_iff rfc4648).2 [⟨2, [7], by decide⟩]
      [rfc4648.encode [0, 2, 0, 0, 0, 1] ++ [7]] (by decide)⟩

/-- An empty message is not delivered when it is all there, and a body that comes after its head is
taken for a head by `FixHeaderSplit3`. -/
theorem splits_late :
    ¬(cmdFormat rfc4648).Prompt (asCall (fixHeaderSplit rfc4648))
        ([⟨5, 2, [], by decide⟩].map CommandMessage.split) [packcmdrep rfc4648 5 2 0] ∧
      ¬(subFormat rfc4648).Prompt (asCall (fixHeaderSplit3 rfc4648))
        ([⟨2, [7], by decide⟩].map SubMessage.split)
        [rfc4648.encode [0, 2, 0, 0, 0, 1], [7]] := by
  constructor
  · intro prompt
    exact absurd (prompt _ List.prefix_rfl) (by decide)
  · intro prompt
    exact absurd (prompt _ List.prefix_rfl) (by decide)

/-! ## Views -/

section Views

variable {Head : Type}

/-- A view is accepted exactly if it holds the body that its head declares. It then yields this head
and this body, as the splitter which erases them does for a body that is not empty. -/
structure ViewAgrees (declared : Nat) (follow : Bytes) (view consumed : SplitEnd Head) : Prop where
  accepted : view.bret = true ↔ declared ≤ follow.length
  body : view.bret = true → view.dst = follow.take declared
  same : view.bret = true → 0 < declared →
    consumed.bret = true ∧ view.head = consumed.head ∧ view.dst = consumed.dst

/-- A view with a head is accepted if it is as long as the body should be. -/
theorem viewBody_headed {headLen : Nat} {first follow : Bytes} (width : first.length = headLen)
    (positive : 0 < headLen) (len : Head → UInt32) (head : Head) (dst : Bytes) :
    viewBody headLen len (first ++ follow) head dst =
      if (len head).toNat ≤ headLen + follow.length then ⟨true, first ++ follow, head, follow⟩
      else ⟨false, first ++ follow, head, dst⟩ := by
  have nonempty : first ++ follow ≠ [] := by
    rw [← List.length_pos_iff, List.length_append]
    omega
  have length : (first ++ follow).length = headLen + follow.length := by
    rw [List.length_append, width]
  have headed : (!(first ++ follow).isEmpty && headLen ≤ (first ++ follow).length) = true := by
    simp [nonempty, length]
  rw [viewBody, if_pos headed, List.drop_left' width, length]

/-- A body that is there and nothing else. -/
theorem splitBody_whole {len : Head → UInt32} {head : Head} {follow : Bytes}
    (whole : follow.length = (len head).toNat) (declares : 0 < (len head).toNat) (dst : Bytes) :
    splitBody len follow head dst = ⟨true, [], head, follow⟩ := by
  have filled : follow ≠ [] := by
    rw [← List.length_pos_iff, whole]
    exact declares
  have enough : (!follow.isEmpty && (len head).toNat ≤ follow.length) = true := by
    simp [filled, whole]
  rw [splitBody, if_pos enough, ← whole, List.drop_length, List.take_length]

/-- The ends of the splitters agree on a view of nothing but one message, and on one which is too
short by more than a head. -/
theorem viewBody_agrees {headLen : Nat} {first follow : Bytes} (width : first.length = headLen)
    (positive : 0 < headLen) (len : Head → UInt32) (head : Head) (dst : Bytes) :
    ViewAgrees (len head).toNat follow (viewBody headLen len (first ++ follow) head dst)
        (splitBody len follow head dst) ↔
      follow.length = (len head).toNat ∨ follow.length + headLen < (len head).toNat := by
  rw [viewBody_headed width positive]
  by_cases accepted : (len head).toNat ≤ headLen + follow.length
  · rw [if_pos accepted]
    constructor
    · intro agrees
      have whole := agrees.accepted.mp rfl
      have body : follow.length = (follow.take (len head).toNat).length :=
        congrArg List.length (agrees.body rfl)
      rw [List.length_take] at body
      exact .inl (by omega)
    · intro whole
      have exactly : follow.length = (len head).toNat := by omega
      refine ⟨iff_of_true rfl (Nat.le_of_eq exactly.symm), ?_, ?_⟩
      · intro _
        exact (List.take_of_length_le (Nat.le_of_eq exactly)).symm
      · intro _ declares
        rw [splitBody_whole exactly declares]
        exact ⟨rfl, rfl, rfl⟩
  · rw [if_neg accepted]
    refine iff_of_true ⟨iff_of_false Bool.false_ne_true (by omega), ?_, ?_⟩ (.inr (by omega))
    · intro other
      cases other
    · intro other
      cases other

end Views

/-- Both splitters read the head of a first message. -/
theorem fixHeaderSplit2_first {first : Bytes} (width : first.length = 12) (follow dst : Bytes) :
    fixHeaderSplit2 base64 (first ++ follow) {} dst =
        viewBody 12 CmdHead.len (first ++ follow) (parsecmd base64 first) dst ∧
      fixHeaderSplit base64 (first ++ follow) {} dst =
        splitBody CmdHead.len follow (parsecmd base64 first) dst := by
  have long : ¬(first ++ follow).length < 12 := by
    rw [List.length_append]
    omega
  simp only [fixHeaderSplit2, fixHeaderSplit, long, if_true, if_false, List.take_left' width,
    List.drop_left' width, and_self]

/-- Both splitters read the head of every message. -/
theorem fixHeaderSplit4_first {first : Bytes} (width : first.length = 8) (head : CmdSubHead)
    (follow dst : Bytes) :
    fixHeaderSplit4 base64 (first ++ follow) head dst =
        viewBody 8 CmdSubHead.len (first ++ follow) (parsesubcmd base64 first) dst ∧
      fixHeaderSplit3 base64 (first ++ follow) head dst =
        splitBody CmdSubHead.len follow (parsesubcmd base64 first) dst := by
  have long : ¬(first ++ follow).length < 8 := by
    rw [List.length_append]
    omega
  simp only [fixHeaderSplit4, fixHeaderSplit3, long, if_false, List.take_left' width,
    List.drop_left' width, and_self]

/-- The splitters of a view agree with the others if and only if there is nothing but the body
behind the head, or the body lacks more bytes than a head has. -/
theorem views_agree_iff (base64 : Base64) :
    (∀ first follow dst : Bytes, first.length = 12 →
      (ViewAgrees (parsecmd base64 first).len.toNat follow
          (fixHeaderSplit2 base64 (first ++ follow) {} dst)
          (fixHeaderSplit base64 (first ++ follow) {} dst) ↔
        follow.length = (parsecmd base64 first).len.toNat ∨
          follow.length + 12 < (parsecmd base64 first).len.toNat)) ∧
      ∀ first follow dst : Bytes, first.length = 8 →
        (ViewAgrees (parsesubcmd base64 first).len.toNat follow
            (fixHeaderSplit4 base64 (first ++ follow) {} dst)
            (fixHeaderSplit3 base64 (first ++ follow) {} dst) ↔
          follow.length = (parsesubcmd base64 first).len.toNat ∨
            follow.length + 8 < (parsesubcmd base64 first).len.toNat) := by
  constructor
  · intro first follow dst width
    obtain ⟨view, consumed⟩ := @fixHeaderSplit2_first base64 first width follow dst
    rw [view, consumed]
    exact viewBody_agrees width (by decide) _ _ _
  · intro first follow dst width
    obtain ⟨view, consumed⟩ := @fixHeaderSplit4_first base64 first width {} follow dst
    rw [view, consumed]
    exact viewBody_agrees width (by decide) _ _ _

/-- A whole message with a body of one byte. -/
theorem views_agree_iff_whole :
    (ViewAgrees (parsecmd rfc4648 (packcmdrep rfc4648 5 2 1)).len.toNat [7]
        (fixHeaderSplit2 rfc4648 (packcmdrep rfc4648 5 2 1 ++ [7]) {} [])
        (fixHeaderSplit rfc4648 (packcmdrep rfc4648 5 2 1 ++ [7]) {} []) ↔
      [7].length = (parsecmd rfc4648 (packcmdrep rfc4648 5 2 1)).len.toNat ∨
        [7].length + 12 < (parsecmd rfc4648 (packcmdrep rfc4648 5 2 1)).len.toNat) ∧
      (ViewAgrees (parsesubcmd rfc4648 (rfc4648.encode [0, 2, 0, 0, 0, 1])).len.toNat [7]
          (fixHeaderSplit4 rfc4648 (rfc4648.encode [0, 2, 0, 0, 0, 1] ++ [7]) {} [])
          (fixHeaderSplit3 rfc4648 (rfc4648.encode [0, 2, 0, 0, 0, 1] ++ [7]) {} []) ↔
        [7].length = (parsesubcmd rfc4648 (rfc4648.encode [0, 2, 0, 0, 0, 1])).len.toNat ∨
          [7].length + 8 <
            (parsesubcmd rfc4648 (rfc4648.encode [0, 2, 0, 0, 0, 1])).len.toNat) :=
  ⟨(views_agree_iff rfc4648).1 (packcmdrep rfc4648 5 2 1) [7] [] (by decide),
    (views_agree_iff rfc4648).2 (rfc4648.encode [0, 2, 0, 0, 0, 1]) [7] [] (by decide)⟩

/-- The first byte of a next message is taken for a part of the body, and a body of which a byte is
missing is accepted. -/
theorem views_disagree :
    (fixHeaderSplit2 rfc4648 (packcmdrep rfc4648 5 2 1 ++ [7, 8]) {} []).dst = [7, 8] ∧
      (fixHeaderSplit2 rfc4648 (packcmdrep rfc4648 5 2 1) {} []).bret = true ∧
      ¬ViewAgrees (parsecmd rfc4648 (packcmdrep rfc4648 5 2 1)).len.toNat [7, 8]
        (fixHeaderSplit2 rfc4648 (packcmdrep rfc4648 5 2 1 ++ [7, 8]) {} [])
        (fixHeaderSplit rfc4648 (packcmdrep rfc4648 5 2 1 ++ [7, 8]) {} []) := by
  refine ⟨by decide, by decide, ?_⟩
  intro agrees
  exact absurd (agrees.body (by decide)) (by decide)

end SM.Network
