import Mathlib.Data.List.Induction
import Mathlib.Logic.Function.Basic
import SM.Utils.Base64
import SM.Utils.HeadDecoders

/-!
# Routers by path and by code

`addRouter` puts a handler into the table of its body type under a path, for HTTP requests, and
into the table of codes, for requests on a WebSocket. A path that is there already is refused, a
code that is there already keeps its handler. `sameHandlers_iff` says when both tables lead to the
same handlers.
-/

namespace SM.Configs

open SM.Utils

inductive HtmlBodyType where
  | json
  | html
  | js
  | woff
  | jpeg
  | css
  | ico
deriving DecidableEq

/-- A main command with an assistant command, which has one of several enumeration types. -/
structure RouteCommand (AssType : Type) where
  mainc : UInt16
  assType : AssType
  assc : UInt16
deriving DecidableEq

/-- `magic_enum::enum_name`, and the encoder of `packheads`. -/
structure RouteNames (AssType : Type) where
  mainName : UInt16 → String
  assName : AssType → UInt16 → String
  encode : Bytes → Bytes

variable {AssType RouterFunc : Type}

def packheads (encode : Bytes → Bytes) (mainc assc : UInt16) : Bytes :=
  encode (htons mainc ++ htons assc)

namespace RouteNames

def codepath (names : RouteNames AssType) (command : RouteCommand AssType) : Bytes :=
  packheads names.encode command.mainc command.assc

def strpath (names : RouteNames AssType) (command : RouteCommand AssType) : String :=
  "/" ++ names.mainName command.mainc ++ "/" ++ names.assName command.assType command.assc

def combinePath (names : RouteNames AssType) (command : RouteCommand AssType) : Bytes × String :=
  (names.codepath command, names.strpath command)

/-- The encoder tells the four bytes of different commands apart. -/
def Injective (names : RouteNames AssType) : Prop :=
  ∀ left right : Bytes, left.length = 4 → right.length = 4 →
    names.encode left = names.encode right → left = right

end RouteNames

/-- `_routers` and `_handlers`. -/
structure HttpRouters (RouterFunc : Type) where
  routers : HtmlBodyType → String → Option (List RouterFunc)
  handlers : Bytes → Option RouterFunc

namespace HttpRouters

def empty : HttpRouters RouterFunc := ⟨fun _ _ => none, fun _ => none⟩

/-- The handler stored under a path. -/
def handlerAt (tables : HttpRouters RouterFunc) (bodyType : HtmlBodyType) (path : String) :
    Option RouterFunc :=
  (tables.routers bodyType path).bind List.head?

/-- `htrie_map::insert` -/
def insert (handlers : Bytes → Option RouterFunc) (codepath : Bytes) (func : RouterFunc) :
    Bytes → Option RouterFunc :=
  if (handlers codepath).isSome then handlers
  else Function.update handlers codepath (some func)

/-- `addRouter`: the value returned and the tables afterwards. `none` is a failed assertion. What
`insert` returns is not looked at. -/
def addRouter (assertions : Bool) (tables : HttpRouters RouterFunc) (bodyType : HtmlBodyType)
    (path : Bytes × String) (func : RouterFunc) : Option (Bool × HttpRouters RouterFunc) :=
  let (codepath, strpath) := path
  if (tables.routers bodyType strpath).isSome then
    if assertions then none else some (false, tables)
  else
    some (true,
      { routers := Function.update tables.routers bodyType
          (Function.update (tables.routers bodyType) strpath (some [func]))
        handlers := insert tables.handlers codepath func })

end HttpRouters

/-- A call of `addRouter` with a path that `combinePath` made. `addRouterJson` and `addRouterHtml`
are the calls with their body types. -/
structure RouterCall (AssType RouterFunc : Type) where
  bodyType : HtmlBodyType
  command : RouteCommand AssType
  func : RouterFunc
deriving DecidableEq

/-- The tables after the given calls, if no assertion fails. -/
def addRouters (assertions : Bool) (names : RouteNames AssType)
    (calls : List (RouterCall AssType RouterFunc)) : Option (HttpRouters RouterFunc) :=
  calls.foldlM (fun tables call =>
    (tables.addRouter assertions call.bodyType (names.combinePath call.command) call.func).map
      Prod.snd) HttpRouters.empty

/-! ## Accepted calls -/

/-- Two calls for one body type and path. -/
def SamePath (names : RouteNames AssType) (left right : RouterCall AssType RouterFunc) : Prop :=
  left.bodyType = right.bodyType ∧ names.strpath left.command = names.strpath right.command

instance (names : RouteNames AssType) (left right : RouterCall AssType RouterFunc) :
    Decidable (SamePath names left right) :=
  inferInstanceAs (Decidable (_ ∧ _))

/-- A call is accepted unless there was one for its body type and path. -/
def accept (names : RouteNames AssType) (kept : List (RouterCall AssType RouterFunc))
    (call : RouterCall AssType RouterFunc) : List (RouterCall AssType RouterFunc) :=
  if ∃ other ∈ kept, SamePath names other call then kept else kept ++ [call]

def acceptedCalls (names : RouteNames AssType) (calls : List (RouterCall AssType RouterFunc)) :
    List (RouterCall AssType RouterFunc) :=
  calls.foldl (accept names) []

/-- What is found under a path and under a code is the first accepted call for it. -/
structure Reflects (names : RouteNames AssType) (kept : List (RouterCall AssType RouterFunc))
    (tables : HttpRouters RouterFunc) : Prop where
  routers : ∀ bodyType path, tables.routers bodyType path =
    (kept.find? fun call => call.bodyType = bodyType ∧ names.strpath call.command = path).map
      fun call => [call.func]
  handlers : ∀ code, tables.handlers code =
    (kept.find? fun call => names.codepath call.command = code).map (·.func)

variable {assertions bret : Bool} {names : RouteNames AssType}
  {kept calls : List (RouterCall AssType RouterFunc)} {tables after : HttpRouters RouterFunc}
  {call : RouterCall AssType RouterFunc}

/-- A path has a handler exactly when an accepted call has it. -/
theorem Reflects.isSome_iff (reflects : Reflects names kept tables) :
    (tables.routers call.bodyType (names.strpath call.command)).isSome ↔
      ∃ other ∈ kept, SamePath names other call := by
  rw [reflects.routers, Option.isSome_map, List.find?_isSome]
  simp [SamePath]

/-- One more call keeps the tables those of the accepted calls. -/
theorem Reflects.addRouter (reflects : Reflects names kept tables)
    (added : tables.addRouter assertions call.bodyType (names.combinePath call.command) call.func =
      some (bret, after)) : Reflects names (accept names kept call) after := by
  simp only [HttpRouters.addRouter, RouteNames.combinePath, reflects.isSome_iff] at added
  by_cases seen : ∃ other ∈ kept, SamePath names other call
  · rw [if_pos seen] at added
    rw [accept, if_pos seen]
    split at added
    · cases added
    · cases added
      exact reflects
  · rw [if_neg seen] at added
    cases added
    rw [accept, if_neg seen]
    have unseen : tables.routers call.bodyType (names.strpath call.command) = none := by
      rw [← Option.not_isSome_iff_eq_none, reflects.isSome_iff]
      exact seen
    constructor
    · intro bodyType path
      rw [List.find?_append, Option.map_or, ← reflects.routers]
      by_cases body : call.bodyType = bodyType
      · subst body
        by_cases same : names.strpath call.command = path
        · subst same
          simp [unseen]
        · simp [same, Function.update_of_ne (Ne.symm same)]
      · simp [body, Function.update_of_ne (Ne.symm body)]
    · intro code
      rw [List.find?_append, Option.map_or, ← reflects.handlers, HttpRouters.insert]
      by_cases same : names.codepath call.command = code
      · subst same
        cases found : tables.handlers (names.codepath call.command) <;> simp [found]
      · split
        · simp [same]
        · simp [same, Function.update_of_ne (Ne.symm same)]

/-- The tables after calls which all returned. -/
theorem reflects_addRouters (returned : addRouters assertions names calls = some tables) :
    Reflects names (acceptedCalls names calls) tables := by
  induction calls using List.reverseRecOn generalizing tables with
  | nil =>
      cases returned
      exact ⟨fun _ _ => rfl, fun _ => rfl⟩
  | append_singleton calls call inductionHypothesis =>
      rw [addRouters, List.foldlM_append] at returned
      obtain ⟨before, first, last⟩ := Option.bind_eq_some_iff.mp returned
      rw [List.foldlM_cons] at last
      obtain ⟨added, found, same⟩ := Option.bind_eq_some_iff.mp last
      obtain ⟨⟨bret, after⟩, stepped, rfl⟩ := Option.map_eq_some_iff.mp found
      cases same
      rw [acceptedCalls, List.foldl_append]
      exact (inductionHypothesis first).addRouter stepped

/-- No two accepted calls have the same path. -/
theorem pairwise_acceptedCalls :
    (acceptedCalls names calls).Pairwise fun earlier later => ¬ SamePath names earlier later := by
  induction calls using List.reverseRecOn with
  | nil => exact List.Pairwise.nil
  | append_singleton calls call inductionHypothesis =>
      rw [acceptedCalls, List.foldl_append, ← acceptedCalls]
      change (accept names (acceptedCalls names calls) call).Pairwise _
      rw [accept]
      split
      · exact inductionHypothesis
      · next unseen =>
          rw [List.pairwise_append]
          refine ⟨inductionHypothesis, List.pairwise_singleton _ _, ?_⟩
          intro other member last isLast
          rw [List.mem_singleton.mp isLast]
          exact fun same => unseen ⟨other, member, same⟩

/-- The call for a body type and a path is the only one. -/
theorem find_of_pairwise
    (pairwise : kept.Pairwise fun earlier later => ¬ SamePath names earlier later)
    (member : call ∈ kept) : (kept.find? fun other => other.bodyType = call.bodyType ∧
      names.strpath other.command = names.strpath call.command) = some call := by
  induction kept with
  | nil => cases member
  | cons first kept inductionHypothesis =>
      obtain ⟨others, rest⟩ := List.pairwise_cons.mp pairwise
      rcases List.mem_cons.mp member with rfl | later
      · simp
      · have other : ¬ (first.bodyType = call.bodyType ∧
            names.strpath first.command = names.strpath call.command) := others call later
        rw [List.find?_cons_of_neg (by simpa using other)]
        exact inductionHypothesis rest later

/-- The path of an accepted call leads to its handler. -/
theorem handlerAt_of_mem (reflects : Reflects names (acceptedCalls names calls) tables)
    (member : call ∈ acceptedCalls names calls) :
    tables.handlerAt call.bodyType (names.strpath call.command) = some call.func := by
  rw [HttpRouters.handlerAt, reflects.routers, find_of_pairwise pairwise_acceptedCalls member]
  rfl

/-- Every handler found by a path is that of an accepted call with this path. -/
theorem mem_of_handlerAt (reflects : Reflects names (acceptedCalls names calls) tables)
    {bodyType : HtmlBodyType} {path : String} {func : RouterFunc}
    (found : tables.handlerAt bodyType path = some func) :
    ∃ call ∈ acceptedCalls names calls, names.strpath call.command = path ∧ call.func = func := by
  rw [HttpRouters.handlerAt, reflects.routers] at found
  obtain ⟨funcs, stored, first⟩ := Option.bind_eq_some_iff.mp found
  obtain ⟨call, found, rfl⟩ := Option.map_eq_some_iff.mp stored
  have key := List.find?_some found
  rw [decide_eq_true_eq] at key
  exact ⟨call, List.mem_of_find?_eq_some found, key.2, Option.some.inj first⟩

/-- Every handler found by a code is that of an accepted call with this code. -/
theorem mem_of_handlers (reflects : Reflects names (acceptedCalls names calls) tables)
    {code : Bytes} {func : RouterFunc} (found : tables.handlers code = some func) :
    ∃ call ∈ acceptedCalls names calls, names.codepath call.command = code ∧
      call.func = func := by
  rw [reflects.handlers] at found
  obtain ⟨call, first, rfl⟩ := Option.map_eq_some_iff.mp found
  have key := List.find?_some first
  rw [decide_eq_true_eq] at key
  exact ⟨call, List.mem_of_find?_eq_some first, key, rfl⟩

/-- The code of every accepted call has a handler. -/
theorem handlers_of_mem (reflects : Reflects names (acceptedCalls names calls) tables)
    (member : call ∈ acceptedCalls names calls) :
    tables.handlers (names.codepath call.command) ≠ none := by
  rw [reflects.handlers, ne_eq, Option.map_eq_none_iff, List.find?_eq_none]
  exact fun none => none call member (decide_eq_true rfl)

/-! ## Agreement of the tables -/

/-- Two commands have one code exactly when main and assistant commands are the same. -/
theorem codepath_eq_iff (injective : names.Injective) {left right : RouteCommand AssType} :
    names.codepath left = names.codepath right ↔
      left.mainc = right.mainc ∧ left.assc = right.assc := by
  constructor
  · intro same
    have bytes := injective _ _ (by simp) (by simp) same
    obtain ⟨mainc, assc⟩ := List.append_inj bytes (by simp)
    rw [← ntohs_htons left.mainc, ← ntohs_htons left.assc, mainc, assc, ntohs_htons, ntohs_htons]
    exact ⟨rfl, rfl⟩
  · rintro ⟨mainc, assc⟩
    rw [RouteNames.codepath, RouteNames.codepath, mainc, assc]

/-- The handler under a path is the one under the code of each command which has the path, and
different commands have different codes. -/
structure SameHandlers (names : RouteNames AssType) (tables : HttpRouters RouterFunc) : Prop where
  agree : ∀ bodyType (command : RouteCommand AssType) func,
    tables.handlerAt bodyType (names.strpath command) = some func →
      tables.handlers (names.codepath command) = some func
  distinct : ∀ left right : RouteCommand AssType, names.codepath left = names.codepath right →
    left.mainc = right.mainc ∧ left.assc = right.assc

/-- Accepted calls for one main and assistant command have one handler, and a command that has the
path of an accepted call was accepted itself with the same handler. -/
structure OneHandler (names : RouteNames AssType)
    (kept : List (RouterCall AssType RouterFunc)) : Prop where
  same : ∀ call ∈ kept, ∀ other ∈ kept, call.command.mainc = other.command.mainc →
    call.command.assc = other.command.assc → call.func = other.func
  reached : ∀ call ∈ kept, ∀ command, names.strpath command = names.strpath call.command →
    ∃ other ∈ kept, other.command.mainc = command.mainc ∧ other.command.assc = command.assc ∧
      other.func = call.func

/-- Paths and codes lead to the same handlers if and only if the accepted calls have one handler for
each command, and for each path of one of them. -/
theorem sameHandlers_iff (assertions : Bool) (names : RouteNames AssType)
    (injective : names.Injective) (calls : List (RouterCall AssType RouterFunc))
    (tables : HttpRouters RouterFunc) (returned : addRouters assertions names calls = some tables) :
    SameHandlers names tables ↔ OneHandler names (acceptedCalls names calls) := by
  have reflects := reflects_addRouters returned
  constructor
  · intro agrees
    have code : ∀ call ∈ acceptedCalls names calls, ∀ command,
        names.strpath command = names.strpath call.command →
          tables.handlers (names.codepath command) = some call.func := by
      intro call member command path
      refine agrees.agree call.bodyType command call.func ?_
      rw [path]
      exact handlerAt_of_mem reflects member
    refine ⟨?_, ?_⟩
    · intro call member other otherMember mainc assc
      have first := code call member call.command rfl
      have second := code other otherMember other.command rfl
      rw [(codepath_eq_iff injective).mpr ⟨mainc, assc⟩, second] at first
      exact (Option.some.inj first).symm
    · intro call member command path
      obtain ⟨other, otherMember, sameCode, func⟩ :=
        mem_of_handlers reflects (code call member command path)
      obtain ⟨mainc, assc⟩ := (codepath_eq_iff injective).mp sameCode
      exact ⟨other, otherMember, mainc, assc, func⟩
  · intro one
    refine ⟨?_, fun left right same => (codepath_eq_iff injective).mp same⟩
    intro bodyType command func found
    obtain ⟨call, member, path, rfl⟩ := mem_of_handlerAt reflects found
    obtain ⟨other, otherMember, mainc, assc, func⟩ := one.reached call member command path.symm
    have sameCode := (codepath_eq_iff injective).mpr ⟨mainc, assc⟩
    obtain ⟨stored, lookup⟩ :=
      Option.ne_none_iff_exists'.mp (handlers_of_mem reflects otherMember)
    obtain ⟨first, firstMember, firstCode, rfl⟩ := mem_of_handlers reflects lookup
    obtain ⟨firstMainc, firstAssc⟩ := (codepath_eq_iff injective).mp firstCode
    rw [← sameCode, lookup, one.same first firstMember other otherMember firstMainc firstAssc, func]

/-- The names of two routes, and the encoder of RFC 4648. -/
def sampleNames : RouteNames Unit where
  mainName _ := "User"
  assName _ ass := if ass = 1 then "Login" else "Logout"
  encode := base64

/-- Different assistant commands have different names. -/
theorem sampleNames_injective : sampleNames.Injective := by
  intro left right _ _ same
  exact base64_inj same

/-- Two body types of one path with the same handler, and another path. -/
theorem sameHandlers_iff_three :
    let calls := [⟨.json, ⟨5, (), 1⟩, 1⟩, ⟨.html, ⟨5, (), 1⟩, 1⟩, ⟨.json, ⟨5, (), 2⟩, 2⟩]
    ∃ tables, addRouters true sampleNames calls = some tables ∧
      (SameHandlers sampleNames tables ↔ OneHandler sampleNames (acceptedCalls sampleNames calls)) :=
  ⟨_, rfl, sameHandlers_iff true sampleNames sampleNames_injective
    [⟨.json, ⟨5, (), 1⟩, 1⟩, ⟨.html, ⟨5, (), 1⟩, 1⟩, ⟨.json, ⟨5, (), 2⟩, 2⟩] _ rfl⟩

/-- Two body types have a handler each under one path, and the code leads to the first one. -/
theorem sameHandlers_bodies :
    ∃ tables, addRouters true sampleNames
        [⟨.json, ⟨5, (), 1⟩, 1⟩, ⟨.html, ⟨5, (), 1⟩, 2⟩] = some tables ∧
      tables.handlerAt .html (sampleNames.strpath ⟨5, (), 1⟩) = some 2 ∧
      tables.handlers (sampleNames.codepath ⟨5, (), 1⟩) = some 1 ∧
      ¬ SameHandlers sampleNames tables := by
  refine ⟨_, rfl, rfl, rfl, ?_⟩
  intro same
  exact absurd (same.agree .html ⟨5, (), 1⟩ 2 rfl) (by decide)

end SM.Configs
