import SM.Configs.HttpRouters
import SM.Utils.Base64Heads

/-!
# Messages on a WebSocket

The handler of `_initWs` looks the first 8 characters of a message up in the table of codes and
skips a head of 12. `packheads` made the keys of that table from 4 bytes, so that they end with
padding, but no head of 12 characters has padding among its first 8: `onMessage_never_serves`.
-/

namespace SM.Inc

open SM.Configs SM.Utils

/-- How the handler of a message ends. -/
inductive WsEnd (RouterFunc : Type) where
  /-- The key was taken from outside of the message. -/
  | outside
  /-- The length of the request is negative, which the constructor of the string refuses. -/
  | negative
  /-- The router threw, so that the pointer to its result is null. -/
  | crashed (func : RouterFunc) (req : Bytes)
  /-- `resp` is sent, after the router that was found has run on a request. -/
  | sent (ran : Option (RouterFunc × Bytes)) (resp : Bytes)
deriving DecidableEq

section Handler

variable {AssType RouterFunc : Type} (base64 : Base64)

/-- The message handler of `Apps::_initWs`, where `run` gives the result of a router. -/
def onMessage (handlers : Bytes → Option RouterFunc) (run : RouterFunc → Bytes → Option Bytes)
    (message : Bytes) : WsEnd RouterFunc :=
  if message.length < 8 then .outside
  else
    match handlers (message.take 8) with
    | none => .sent none []
    | some func =>
        if message.length < 12 then .negative
        else
          let req := message.drop 12
          match run func req with
          | none => .crashed func req
          | some strrep =>
              .sent (some (func, req)) (message.take 8 ++ packlen base64 strrep.length ++ strrep)

/-- The router that ran, and its request. -/
def WsEnd.ran : WsEnd RouterFunc → Option (RouterFunc × Bytes)
  | .outside | .negative => none
  | .crashed func req => some (func, req)
  | .sent ran _ => ran

/-- The message for a command, with the head which the encoders write. -/
def commandMessage (command : RouteCommand AssType) (body : Bytes) : Bytes :=
  packcmdrep base64 command.mainc.toNat command.assc.toInt16 body.length ++ body

/-- A message for a command is looked up under the key of its registration, the router has the body,
and the answer is the result behind a head with the command and the length of the result. -/
structure Serves (handlers : Bytes → Option RouterFunc)
    (run : RouterFunc → Bytes → Option Bytes) (command : RouteCommand AssType) (body : Bytes) :
    Prop where
  key : (commandMessage base64 command body).take 8 =
    packheads base64.encode command.mainc command.assc
  answer : ∃ func strrep head length,
    handlers (packheads base64.encode command.mainc command.assc) = some func ∧
      run func body = some strrep ∧
      onMessage base64 handlers run (commandMessage base64 command body) =
        .sent (some (func, body)) (head ++ length ++ strrep) ∧
      base64.decode head = some (htons command.mainc ++ htons command.assc) ∧
      base64.decode length = some (htonl (UInt32.ofNat strrep.length))

end Handler

variable {AssType RouterFunc : Type} {base64 : Base64} {handlers : Bytes → Option RouterFunc}
  {run : RouterFunc → Bytes → Option Bytes} {message : Bytes}

/-! ## Keys -/

/-- The code of four bytes ends with padding. -/
theorem filler_mem_packheads (mainc assc : UInt16) :
    (61 : UInt8) ∈ packheads base64.encode mainc assc := by
  obtain ⟨digits, _, coded⟩ := base64.padded (htons mainc ++ htons assc)
  rw [packheads, coded, List.length_append, length_htons, length_htons]
  exact List.mem_append_right _ List.mem_cons_self

/-- The code of eight bytes has its padding behind the first eight characters. -/
theorem filler_not_mem_packcmdrep (mainc : Int) (assc : Int16) (len : Nat) (rest : Bytes) :
    (61 : UInt8) ∉ (packcmdrep base64 mainc assc len ++ rest).take 8 := by
  obtain ⟨digits, proper, coded⟩ := base64.padded
    (htons (UInt16.ofInt mainc) ++ htons assc.toUInt16 ++ htonl (UInt32.ofNat len))
  have whole : (packcmdrep base64 mainc assc len).length = 12 := by
    rw [packcmdrep, base64.length_encode]
    simp
  rw [packcmdrep, coded] at whole ⊢
  simp only [List.length_append, length_htons, length_htonl, List.length_replicate] at whole ⊢
  have front : (digits ++ List.replicate ((3 - (2 + 2 + 4) % 3) % 3) 61 ++ rest).take 8 =
      digits.take 8 := by
    rw [List.append_assoc, List.take_append_of_le_length (by omega)]
  rw [front]
  intro padded
  exact proper (List.mem_of_mem_take padded)

/-- The first eight bytes of a command are no key of the table. -/
theorem key_ne (command : RouteCommand AssType) (body : Bytes) (mainc assc : UInt16) :
    (commandMessage base64 command body).take 8 ≠ packheads base64.encode mainc assc := by
  intro same
  have padded := @filler_mem_packheads base64 mainc assc
  rw [← same] at padded
  exact filler_not_mem_packcmdrep _ _ _ _ padded

/-- No message with the head of the encoders reaches a router: the answer is empty, whatever is
registered. -/
theorem onMessage_never_serves (base64 : Base64) (names : RouteNames AssType)
    (encodes : names.encode = base64.encode) (assertions : Bool)
    (calls : List (RouterCall AssType RouterFunc)) (tables : HttpRouters RouterFunc)
    (returned : addRouters assertions names calls = some tables)
    (run : RouterFunc → Bytes → Option Bytes) (command : RouteCommand AssType) (body : Bytes) :
    onMessage base64 tables.handlers run (commandMessage base64 command body) = .sent none [] ∧
      ¬Serves base64 tables.handlers run command body := by
  constructor
  · have long : ¬(commandMessage base64 command body).length < 8 := by
      rw [commandMessage, List.length_append, packcmdrep, base64.length_encode]
      simp only [List.length_append, length_htons, length_htonl]
      omega
    have unknown : tables.handlers ((commandMessage base64 command body).take 8) = none := by
      rw [Option.eq_none_iff_forall_ne_some]
      intro func found
      obtain ⟨call, _, code, _⟩ := mem_of_handlers (reflects_addRouters returned) found
      rw [RouteNames.codepath, encodes] at code
      exact key_ne command body _ _ code.symm
    rw [onMessage, if_neg long, unknown]
  · intro serves
    exact key_ne command body _ _ serves.key

/-- A command with a handler which is not served. -/
theorem onMessage_never_serves_login :
    ∃ tables, addRouters true sampleNames [⟨.json, ⟨5, (), 1⟩, 1⟩] = some tables ∧
      onMessage rfc4648 tables.handlers (fun _ _ => some [])
          (commandMessage rfc4648 (⟨5, (), 1⟩ : RouteCommand Unit) [7]) = .sent none [] ∧
      ¬Serves rfc4648 tables.handlers (fun (_ : Nat) _ => some [])
        (⟨5, (), 1⟩ : RouteCommand Unit) [7] :=
  ⟨_, rfl, onMessage_never_serves rfc4648 sampleNames rfl true [⟨.json, ⟨5, (), 1⟩, 1⟩] _ rfl
    (fun _ _ => some []) ⟨5, (), 1⟩ [7]⟩

/-- A registered command is not found. -/
theorem onMessage_login_unknown :
    ∃ tables, addRouters true sampleNames [⟨.json, ⟨5, (), 1⟩, 1⟩] = some tables ∧
      tables.handlers (packheads rfc4648.encode 5 1) = some 1 ∧
      onMessage rfc4648 tables.handlers (fun _ _ => some [8])
        (commandMessage rfc4648 (⟨5, (), 1⟩ : RouteCommand Unit) [7]) = .sent none [] ∧
      ¬Serves rfc4648 tables.handlers (fun (_ : Nat) _ => some [8])
        (⟨5, (), 1⟩ : RouteCommand Unit) [7] := by
  refine ⟨_, rfl, by decide, by decide, ?_⟩
  intro serves
  exact absurd serves.key (by decide)

/-! ## Short messages -/

/-- Nothing is taken from outside of a message, no length is negative, and a message without a
complete head runs no router. -/
structure InRange (message : Bytes) (ended : WsEnd RouterFunc) : Prop where
  inside : ended ≠ .outside
  length : ended ≠ .negative
  headed : message.length < 12 → ended.ran = none

/-- A short message runs no handler. -/
theorem ran_onMessage_short (short : message.length < 12) :
    (onMessage base64 handlers run message).ran = none := by
  unfold onMessage
  by_cases none : message.length < 8
  · rw [if_pos none]
    rfl
  · rw [if_neg none]
    cases handlers (message.take 8) with
    | none => rfl
    | some func =>
        dsimp only
        rw [if_pos short]
        rfl

/-- A message is read past its end exactly when it is shorter than a head. -/
theorem onMessage_outside_iff :
    onMessage base64 handlers run message = .outside ↔ message.length < 8 := by
  unfold onMessage
  split
  · next keyless => exact iff_of_true rfl keyless
  · next keyed =>
      refine iff_of_false ?_ keyed
      cases handlers (message.take 8) with
      | none => simp
      | some func =>
          dsimp only
          split
          · simp
          · cases run func (message.drop 12) <;> simp

/-- A length is negative exactly when a handler is found in a message shorter than two heads. -/
theorem onMessage_negative_iff :
    onMessage base64 handlers run message = .negative ↔
      8 ≤ message.length ∧ handlers (message.take 8) ≠ none ∧ message.length < 12 := by
  unfold onMessage
  split
  · next keyless =>
      refine iff_of_false (by simp) ?_
      rintro ⟨keyed, _⟩
      omega
  · next keyed =>
      cases handlers (message.take 8) with
      | none => exact iff_of_false (by simp) fun short => short.2.1 rfl
      | some func =>
          dsimp only
          split
          · next short =>
              exact iff_of_true rfl ⟨Nat.le_of_not_lt keyed, Option.some_ne_none func, short⟩
          · next headed =>
              refine iff_of_false ?_ fun short => headed short.2.2
              cases run func (message.drop 12) <;> simp

end SM.Inc
