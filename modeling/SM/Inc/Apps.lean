import Mathlib.Logic.Function.Basic
import SM.Lib.Machine

/-!
# Requests of the HTTP server

The handlers of `_initRes` and `_initHttp` collect a request's body, spawn a coroutine for it, and
answer from a callback which the coroutine defers to the loop. A response which is aborted before
is remembered in `_abortReps`, by the address of its `HttpResponse`. The entry is taken out by the
next data or deferred callback at that address, and only there, whosever callback it is.
-/

namespace SM.Inc

open SM.Lib

/-- Where the handler of a request stands. -/
inductive Stage where
  | receiving
  /-- The coroutine runs, or its callback is deferred. -/
  | spawned (msg : String)
  | answered
deriving DecidableEq

def Stage.running : Stage → Bool
  | .spawned _ => true
  | _ => false

structure HttpRequest where
  /-- The address of the `HttpResponse`. -/
  rep : Nat
  stage : Stage
  querystr : String := ""
  postdata : String := ""
  /-- The last chunk of the body has arrived. -/
  complete : Bool := false
  aborted : Bool := false
  /-- What `end` was called with on the response. -/
  ends : List String := []
deriving DecidableEq

/-- An aborted response is not touched. Another one is ended once, by its own callback, which
runs after the body is complete. -/
structure HttpRequest.Sound (request : HttpRequest) : Prop where
  untouched : request.aborted = true → request.ends = []
  once : request.aborted = false →
    request.ends.length = if request.stage = .answered then 1 else 0
  served : request.aborted = false → request.complete = true → request.stage ≠ .receiving

/-- The callback which takes the entry of an aborted response out is to come. -/
def HttpRequest.Pending (request : HttpRequest) : Prop :=
  request.aborted = true ∧ request.stage.running = true

/-- The state of the uWS loop. -/
structure Apps where
  /-- The addresses of `_abortReps`, each with the request that inserted it. -/
  abortReps : Nat → Option Nat := fun _ => none
  requests : Nat → Option HttpRequest := fun _ => none
  /-- The last request whose response was at an address. -/
  occupant : Nat → Option Nat := fun _ => none

namespace Apps

def put (apps : Apps) (number : Nat) (request : HttpRequest) : Apps :=
  { apps with requests := Function.update apps.requests number (some request) }

def insert (apps : Apps) (rep number : Nat) : Apps :=
  { apps with
    abortReps := Function.update apps.abortReps rep (some ((apps.abortReps rep).getD number)) }

def erase (apps : Apps) (rep : Nat) : Apps :=
  { apps with abortReps := Function.update apps.abortReps rep none }

/-- A new request with its response at the address `request.rep`. -/
def accept (apps : Apps) (number : Nat) (request : HttpRequest) : Apps :=
  { apps.put number request with
    occupant := Function.update apps.occupant request.rep (some number) }

/-- `rep->end(text)`, for whatever response is at the address now. -/
def endRep (apps : Apps) (rep : Nat) (text : String) : Apps :=
  match apps.occupant rep with
  | none => apps
  | some number =>
    match apps.requests number with
    | none => apps
    | some request => apps.put number { request with ends := request.ends ++ [text] }

/-- The handler of `_initRes`. -/
def getResource (rep : Nat) (url : String) (ready : Bool) : HttpRequest :=
  if ready then
    { rep, complete := true, stage := .spawned (if url = "/" then "/index.html" else url) }
  else { rep, complete := true, stage := .answered, ends := ["not ready"] }

/-- The handler of `_initHttp`. -/
def dealer (rep : Nat) (querystr : String) : HttpRequest := { rep, querystr, stage := .receiving }

def datadealer (apps : Apps) (number : Nat) (request : HttpRequest) (chunk : String)
    (isEnd : Bool) : Apps :=
  if (apps.abortReps request.rep).isSome then
    (apps.erase request.rep).put number { request with complete := isEnd }
  else
    let postdata := request.postdata ++ chunk
    apps.put number { request with
      postdata
      complete := isEnd
      stage := if isEnd then .spawned (if postdata = "" then request.querystr else postdata)
        else request.stage }

def onAborted (apps : Apps) (number : Nat) (request : HttpRequest) : Apps :=
  (apps.put number { request with aborted := true }).insert request.rep number

/-- The text of an answer; a coroutine without one answers 404. -/
def answer : Option String → String
  | none => "404 not found"
  | some resp => if resp = "" then "404 not found" else resp

/-- The callback which the coroutine defers. -/
def deferred (apps : Apps) (number : Nat) (request : HttpRequest) (resp : Option String) : Apps :=
  if (apps.abortReps request.rep).isSome then
    (apps.erase request.rep).put number { request with stage := .answered }
  else (apps.put number { request with stage := .answered }).endRep request.rep (answer resp)

/-- A callback of the loop. -/
inductive Event where
  | get (number rep : Nat) (url : String) (ready : Bool)
  | dealer (number rep : Nat) (querystr : String)
  | data (number : Nat) (chunk : String) (isEnd : Bool)
  | aborted (number : Nat)
  | deferred (number : Nat) (resp : Option String)

/-- No live response is at the address: the last one is finished or aborted. -/
def vacant (apps : Apps) (rep : Nat) : Bool :=
  ((apps.occupant rep).bind apps.requests).all fun request =>
    request.aborted || !request.ends.isEmpty

def step (apps : Apps) : Event → Option Apps
  | .get number rep url ready =>
      if apps.requests number = none ∧ apps.vacant rep then
        some (apps.accept number (getResource rep url ready))
      else none
  | .dealer number rep querystr =>
      if apps.requests number = none ∧ apps.vacant rep then
        some (apps.accept number (Apps.dealer rep querystr))
      else none
  | .data number chunk isEnd =>
      (apps.requests number).bind fun request =>
        if request.stage = .receiving ∧ request.complete = false ∧ request.aborted = false then
          some (apps.datadealer number request chunk isEnd)
        else none
  | .aborted number =>
      (apps.requests number).bind fun request =>
        if request.aborted = false ∧ request.ends = [] then some (apps.onAborted number request)
        else none
  | .deferred number resp =>
      (apps.requests number).bind fun request =>
        if request.stage.running then some (apps.deferred number request resp) else none

variable {apps next : Apps} {event : Event} {number other rep : Nat}
  {request before after : HttpRequest}

/-! ## Fields after the updates -/

/-- The request which was put is there. -/
theorem requests_put_self (apps : Apps) (number : Nat) (request : HttpRequest) :
    (apps.put number request).requests number = some request := Function.update_self ..

/-- The other requests stay. -/
theorem requests_put_of_ne (different : other ≠ number) :
    (apps.put number request).requests other = apps.requests other :=
  Function.update_of_ne different ..

/-- The requests after one was put are that one and the ones before. -/
theorem forall_put {property : Nat → HttpRequest → Prop} (here : property number request)
    (elsewhere : ∀ other found, other ≠ number → apps.requests other = some found →
      property other found) :
    ∀ other found, (apps.put number request).requests other = some found →
      property other found := by
  intro other found known
  by_cases same : other = number
  · subst same
    cases (requests_put_self apps other request).symm.trans known
    exact here
  · exact elsewhere other found same (requests_put_of_ne same ▸ known)

/-- What holds of a request before and of the one put there holds afterwards. -/
theorem exists_put {property : HttpRequest → Prop}
    (kept : ∃ found, apps.requests other = some found ∧ property found)
    (here : other = number → property request) :
    ∃ found, (apps.put number request).requests other = some found ∧ property found := by
  by_cases same : other = number
  · subst same
    exact ⟨request, requests_put_self apps other request, here rfl⟩
  · obtain ⟨found, known, holds⟩ := kept
    exact ⟨found, (requests_put_of_ne same).trans known, holds⟩

/-- An entry which is left has another address. -/
theorem abortReps_erase {marked : Nat} (still : (apps.erase rep).abortReps other = some marked) :
    other ≠ rep ∧ apps.abortReps other = some marked := by
  by_cases same : other = rep
  · subst same
    exact nomatch (Function.update_self ..).symm.trans still
  · exact ⟨same, (Function.update_of_ne same ..).symm.trans still⟩

/-- An entry was there before, or is the new one at a free address. -/
theorem abortReps_insert {marked : Nat}
    (entry : (apps.insert rep number).abortReps other = some marked) :
    apps.abortReps other = some marked ∨
      other = rep ∧ marked = number ∧ apps.abortReps rep = none := by
  by_cases same : other = rep
  · subst same
    have value := (Function.update_self ..).symm.trans entry
    cases already : apps.abortReps other with
    | none =>
        rw [already] at value
        exact .inr ⟨rfl, (Option.some.inj value).symm, rfl⟩
    | some first =>
        rw [already] at value
        exact .inl value
  · exact .inl ((Function.update_of_ne same ..).symm.trans entry)

/-! ## Entries and addresses -/

/-- An entry has the address of an aborted response; a live response has its address alone. -/
structure Known (apps : Apps) : Prop where
  entry : ∀ rep number, apps.abortReps rep = some number →
    ∃ request, apps.requests number = some request ∧ request.rep = rep ∧
      request.aborted = true
  occupied : ∀ number request, apps.requests number = some request →
    ∃ last, apps.occupant request.rep = some last ∧ apps.requests last ≠ none
  live : ∀ number request, apps.requests number = some request → request.aborted = false →
    request.ends = [] → apps.occupant request.rep = some number

/-- No request is lost. -/
theorem requests_put_ne_none (known : apps.requests other ≠ none) :
    (apps.put number request).requests other ≠ none := by
  by_cases same : other = number
  · subst same
    rw [requests_put_self]
    exact Option.some_ne_none _
  · rwa [requests_put_of_ne same]

/-- A request which keeps its address, its abort and its end keeps the entries right. -/
theorem Known.put (known : apps.Known) (was : apps.requests number = some before)
    (address : after.rep = before.rep) (aborted : before.aborted = true → after.aborted = true)
    (ends : after.ends = [] → before.ends = []) : (apps.put number after).Known where
  entry rep marked entry := by
    refine exists_put (known.entry rep marked entry) ?_
    rintro rfl
    obtain ⟨_, same, at_rep, gone⟩ := known.entry rep marked entry
    cases was.symm.trans same
    exact ⟨address.trans at_rep, aborted gone⟩
  occupied := by
    refine forall_put ?_ ?_
    · obtain ⟨last, here, found⟩ := known.occupied number before was
      exact ⟨last, address ▸ here, requests_put_ne_none found⟩
    · intro other found _ was
      obtain ⟨last, here, found⟩ := known.occupied other found was
      exact ⟨last, here, requests_put_ne_none found⟩
  live := by
    refine forall_put ?_ ?_
    · intro alive unended
      refine address ▸ known.live number before was ?_ (ends unended)
      exact Bool.eq_false_iff.mpr fun gone => Bool.eq_false_iff.mp alive (aborted gone)
    · intro other found _ was
      exact known.live other found was

/-- Without an entry the others are right. -/
theorem Known.erase (known : apps.Known) (rep : Nat) : (apps.erase rep).Known where
  entry other number entry := known.entry other number (abortReps_erase entry).2
  occupied := known.occupied
  live := known.live

/-- The entry of an aborted response is right. -/
theorem Known.insert (known : apps.Known) (was : apps.requests number = some request)
    (address : request.rep = rep) (aborted : request.aborted = true) :
    (apps.insert rep number).Known where
  entry other marked entry := by
    rcases abortReps_insert entry with before | ⟨rfl, rfl, _⟩
    · exact known.entry other marked before
    · exact ⟨request, was, address, aborted⟩
  occupied := known.occupied
  live := known.live

/-- A response which is ended keeps the entries right. -/
theorem Known.endRep (known : apps.Known) (rep : Nat) (text : String) :
    (apps.endRep rep text).Known := by
  unfold Apps.endRep
  split
  · exact known
  · split
    · exact known
    · next was =>
        refine known.put was rfl id ?_
        intro none
        exact absurd none (List.append_ne_nil_of_right_ne_nil _ (List.cons_ne_nil _ _))

/-- Nobody alive has a vacant address. -/
theorem Known.not_live (known : apps.Known) (vacant : apps.vacant request.rep = true)
    (was : apps.requests number = some request) :
    request.aborted = true ∨ request.ends ≠ [] := by
  refine Decidable.or_iff_not_imp_left.mpr fun alive unended => ?_
  have here := known.live number request was (Bool.eq_false_iff.mpr alive) unended
  rw [Apps.vacant, here, Option.bind_some, was, Option.all_some, unended] at vacant
  simp [alive] at vacant

/-- A new request at a vacant address keeps the entries right. -/
theorem Known.accept (known : apps.Known) (fresh : apps.requests number = none)
    (vacant : apps.vacant request.rep = true) : (apps.accept number request).Known where
  entry rep marked entry := by
    refine exists_put (known.entry rep marked entry) ?_
    rintro rfl
    obtain ⟨_, was, _⟩ := known.entry rep marked entry
    exact nomatch fresh.symm.trans was
  occupied := by
    refine forall_put ⟨number, Function.update_self .., ?_⟩ ?_
    · exact Option.ne_none_iff_exists'.mpr ⟨request, requests_put_self apps number request⟩
    · intro other found _ was
      by_cases same : found.rep = request.rep
      · refine ⟨number, same ▸ Function.update_self .., ?_⟩
        exact Option.ne_none_iff_exists'.mpr ⟨request, requests_put_self apps number request⟩
      · obtain ⟨last, here, present⟩ := known.occupied other found was
        exact ⟨last, (Function.update_of_ne same ..).trans here, requests_put_ne_none present⟩
  live := by
    refine forall_put ?_ ?_
    · intro _ _
      exact Function.update_self ..
    · intro other found _ was alive unended
      have elsewhere : found.rep ≠ request.rep := by
        intro same
        rcases known.not_live (same ▸ vacant) was with aborted | ended
        · exact Bool.eq_false_iff.mp alive aborted
        · exact ended unended
      exact (Function.update_of_ne elsewhere ..).trans (known.live other found was alive unended)

/-- Before the first request there is no entry. -/
theorem known_initial : Known {} where
  entry _ _ entry := nomatch entry
  occupied _ _ was := nomatch was
  live _ _ was := nomatch was

/-- Every event keeps the entries right. -/
theorem Known.step (known : apps.Known) (stepped : apps.step event = some next) : next.Known := by
  cases event with
  | get number rep url ready =>
      obtain ⟨⟨fresh, vacant⟩, stepped⟩ := Option.ite_none_right_eq_some.mp stepped
      cases stepped
      refine known.accept fresh ?_
      rw [getResource]
      split <;> exact vacant
  | dealer number rep querystr =>
      obtain ⟨⟨fresh, vacant⟩, stepped⟩ := Option.ite_none_right_eq_some.mp stepped
      cases stepped
      exact known.accept fresh vacant
  | data number chunk isEnd =>
      obtain ⟨request, was, stepped⟩ := Option.bind_eq_some_iff.mp stepped
      obtain ⟨_, stepped⟩ := Option.ite_none_right_eq_some.mp stepped
      cases stepped
      unfold datadealer
      split
      · exact (known.erase request.rep).put was rfl id id
      · exact known.put was rfl id id
  | aborted number =>
      obtain ⟨request, was, stepped⟩ := Option.bind_eq_some_iff.mp stepped
      obtain ⟨_, stepped⟩ := Option.ite_none_right_eq_some.mp stepped
      cases stepped
      have aborted : (apps.put number { request with aborted := true }).Known :=
        known.put was rfl (fun _ => rfl) id
      exact aborted.insert (requests_put_self apps number _) rfl rfl
  | deferred number resp =>
      obtain ⟨request, was, stepped⟩ := Option.bind_eq_some_iff.mp stepped
      obtain ⟨_, stepped⟩ := Option.ite_none_right_eq_some.mp stepped
      cases stepped
      unfold Apps.deferred
      split
      · exact (known.erase request.rep).put was rfl id id
      · have answered : (apps.put number { request with stage := .answered }).Known :=
          known.put was rfl id id
        exact answered.endRep request.rep (answer resp)

/-! ## Answers -/

/-- No aborted response was touched, every other request whose body is complete gets its one
`end`, and an entry does not outlive the request that inserted it. -/
structure Sound (apps : Apps) : Prop where
  requests : ∀ number request, apps.requests number = some request → request.Sound
  entries : ∀ rep number, apps.abortReps rep = some number →
    ∃ request, apps.requests number = some request ∧ request.Pending

/-- A response is aborted while its callback is to come, or while its address has an entry; no
body is completed at an address that has an entry; a callback finds an entry if and only if its
own response was aborted. -/
def Admitted (apps : Apps) : Event → Prop
  | .data number _ isEnd => ∀ request, apps.requests number = some request → isEnd = true →
      apps.abortReps request.rep = none
  | .aborted number => ∀ request, apps.requests number = some request →
      request.stage.running = true ∨ apps.abortReps request.rep ≠ none
  | .deferred number _ => ∀ request, apps.requests number = some request →
      (request.aborted = true ↔ apps.abortReps request.rep ≠ none)
  | _ => True

/-- A request which is right, and pending as long as it has an entry, keeps the bookkeeping
right. -/
theorem Sound.put (sound : apps.Sound) (fine : request.Sound)
    (pending : ∀ rep, apps.abortReps rep = some number → request.Pending) :
    (apps.put number request).Sound where
  requests := forall_put fine fun other found _ => sound.requests other found
  entries rep marked entry := by
    refine exists_put (sound.entries rep marked entry) ?_
    rintro rfl
    exact pending rep entry

/-- Without an entry the bookkeeping is right. -/
theorem Sound.erase (sound : apps.Sound) (rep : Nat) : (apps.erase rep).Sound where
  requests := sound.requests
  entries other number entry := sound.entries other number (abortReps_erase entry).2

/-- Only an aborted request that is still running has an entry. -/
theorem Sound.pending (sound : apps.Sound) (was : apps.requests number = some request)
    (entry : apps.abortReps rep = some number) : request.Pending := by
  obtain ⟨_, same, pending⟩ := sound.entries rep number entry
  cases was.symm.trans same
  exact pending

/-- A new request keeps the bookkeeping right. -/
theorem Sound.accept (sound : apps.Sound) (fresh : apps.requests number = none)
    (fine : request.Sound) : (apps.accept number request).Sound := by
  have put : (apps.put number request).Sound := by
    refine sound.put fine ?_
    intro rep entry
    obtain ⟨_, was, _⟩ := sound.entries rep number entry
    exact nomatch fresh.symm.trans was
  exact ⟨put.requests, put.entries⟩

/-- The request of a resource is right when it comes. -/
theorem sound_getResource (rep : Nat) (url : String) (ready : Bool) :
    (getResource rep url ready).Sound := by
  cases ready with
  | false => exact ⟨Bool.noConfusion, fun _ => rfl, fun _ _ => Stage.noConfusion⟩
  | true => exact ⟨Bool.noConfusion, fun _ => rfl, fun _ _ => Stage.noConfusion⟩

/-- The request of a command is right when it comes. -/
theorem sound_dealer (rep : Nat) (querystr : String) : (dealer rep querystr).Sound :=
  ⟨Bool.noConfusion, fun _ => rfl, fun _ => Bool.noConfusion⟩

/-- A chunk that is taken for aborted is lost; the request whose last chunk it was is never
answered. -/
theorem sound_datadealer (sound : apps.Sound) (was : apps.requests number = some request)
    (receiving : request.stage = .receiving) (alive : request.aborted = false)
    (chunk : String) (isEnd : Bool) :
    (apps.datadealer number request chunk isEnd).Sound ↔
      (isEnd = true → apps.abortReps request.rep = none) := by
  have fine := sound.requests number request was
  have unended := fine.once alive
  have absent : ∀ rep, apps.abortReps rep ≠ some number := by
    intro rep entry
    exact Bool.eq_false_iff.mp alive (sound.pending was entry).1
  rw [receiving, if_neg Stage.noConfusion] at unended
  cases marked : apps.abortReps request.rep with
  | none =>
      rw [datadealer, marked, if_neg (by decide)]
      refine iff_of_true (sound.put ⟨fine.untouched, ?_, ?_⟩ ?_) fun _ => rfl
      · intro _
        cases isEnd <;> simp [receiving, unended]
      · rintro _ rfl
        exact Stage.noConfusion
      · intro rep entry
        exact absurd entry (absent rep)
  | some first =>
      rw [datadealer, marked, if_pos Option.isSome_some]
      constructor
      · intro after
        rintro rfl
        exact absurd receiving ((after.requests number _ (requests_put_self ..)).served alive rfl)
      · intro notLast
        have open_ : isEnd ≠ true := fun last => nomatch notLast last
        refine (sound.erase request.rep).put ⟨fine.untouched, fine.once, ?_⟩ ?_
        · intro _ last
          exact absurd last open_
        · intro rep entry
          exact absurd (abortReps_erase entry).2 (absent rep)

/-- The entry of a pending request keeps the bookkeeping right. -/
theorem Sound.insert (sound : apps.Sound)
    (pending : apps.abortReps rep = none →
      ∃ request, apps.requests number = some request ∧ request.Pending) :
    (apps.insert rep number).Sound where
  requests := sound.requests
  entries other marked entry := by
    rcases abortReps_insert entry with before | ⟨rfl, rfl, absent⟩
    · exact sound.entries other marked before
    · exact pending absent

/-- The entry of a response that is aborted without a callback to come stays. -/
theorem sound_onAborted (sound : apps.Sound) (was : apps.requests number = some request)
    (alive : request.aborted = false) (unended : request.ends = []) :
    (apps.onAborted number request).Sound ↔
      request.stage.running = true ∨ apps.abortReps request.rep ≠ none := by
  constructor
  · intro after
    refine Decidable.or_iff_not_imp_right.mpr fun absent => ?_
    have entry : (apps.onAborted number request).abortReps request.rep = some number := by
      refine (Function.update_self ..).trans ?_
      rw [Apps.put, Decidable.not_not.mp absent, Option.getD_none]
    exact (after.pending (requests_put_self ..) entry).2
  · intro admitted
    have fine : { request with aborted := true }.Sound :=
      ⟨fun _ => unended, Bool.noConfusion, Bool.noConfusion⟩
    refine (sound.put fine ?_).insert ?_
    · intro rep entry
      exact absurd (sound.pending was entry).1 (Bool.eq_false_iff.mp alive)
    · intro absent
      refine ⟨_, requests_put_self .., rfl, ?_⟩
      exact admitted.resolve_right fun present => present absent

/-- Of two changes the last one counts. -/
theorem put_put : (apps.put number before).put number after = apps.put number after := by
  simp only [put, Function.update_idem]

/-- A response that is as it should be is not after one more `end`. -/
theorem not_sound_ended (fine : request.Sound) (text : String) :
    ¬ { request with ends := request.ends ++ [text] }.Sound := by
  intro again
  cases gone : request.aborted with
  | true =>
      exact List.append_ne_nil_of_right_ne_nil _ (List.cons_ne_nil _ _) (again.untouched gone)
  | false =>
      have two := again.once gone
      rw [List.length_append, fine.once gone] at two
      exact absurd two (Nat.succ_ne_self _)

/-- A callback that finds no entry ends whatever response is at its address. -/
theorem endRep_occupied {last : Nat} (here : apps.occupant rep = some last)
    (found : apps.requests last = some request) (text : String) :
    apps.endRep rep text = apps.put last { request with ends := request.ends ++ [text] } := by
  simp only [endRep, here, found]

/-- The answer to a live response is right. -/
theorem sound_answered_alive (known : apps.Known) (sound : apps.Sound)
    (was : apps.requests number = some request) (running : request.stage.running = true)
    (alive : request.aborted = false) (text : String) :
    ((apps.put number { request with stage := .answered }).endRep request.rep text).Sound := by
  have unended : request.ends = [] := by
    have once := (sound.requests number request was).once alive
    rw [if_neg (by rintro same; rw [same] at running; cases running)] at once
    exact List.length_eq_zero_iff.mp once
  have here : (apps.put number { request with stage := .answered }).occupant request.rep =
      some number := known.live number request was alive unended
  rw [endRep_occupied here (requests_put_self ..), put_put]
  refine sound.put ⟨fun gone => ?_, fun _ => ?_, fun _ _ => Stage.noConfusion⟩ ?_
  · exact absurd gone (Bool.eq_false_iff.mp alive)
  · simp [unended]
  · intro rep entry
    exact absurd (sound.pending was entry).1 (Bool.eq_false_iff.mp alive)

/-- The answer to an aborted response is not. -/
theorem not_sound_answered_aborted (known : apps.Known) (sound : apps.Sound)
    (was : apps.requests number = some request) (gone : request.aborted = true) (text : String) :
    ¬ ((apps.put number { request with stage := .answered }).endRep request.rep text).Sound := by
  obtain ⟨last, occupied, present⟩ := known.occupied number request was
  have here : (apps.put number { request with stage := .answered }).occupant request.rep =
      some last := occupied
  obtain ⟨found, foundAt⟩ := Option.ne_none_iff_exists'.mp
    (@requests_put_ne_none apps number last { request with stage := .answered } present)
  rw [endRep_occupied here foundAt]
  intro after
  refine not_sound_ended ?_ text (after.requests last _ (requests_put_self ..))
  by_cases same : last = number
  · subst same
    cases (requests_put_self ..).symm.trans foundAt
    have fine := sound.requests last request was
    refine ⟨fine.untouched, fun alive => ?_, fun _ _ => Stage.noConfusion⟩
    exact nomatch gone.symm.trans alive
  · exact sound.requests last found ((requests_put_of_ne same).symm.trans foundAt)

/-- The end of a callback is right exactly when it finds an entry for an aborted response, and none
for a live one. -/
theorem sound_deferred (known : apps.Known) (sound : apps.Sound)
    (was : apps.requests number = some request) (running : request.stage.running = true)
    (resp : Option String) :
    (apps.deferred number request resp).Sound ↔
      (request.aborted = true ↔ apps.abortReps request.rep ≠ none) := by
  have fine := sound.requests number request was
  cases marked : apps.abortReps request.rep with
  | none =>
      rw [deferred, marked, if_neg (by decide), iff_false_right (not_not_intro rfl),
        Bool.not_eq_true]
      constructor
      · intro after
        refine Bool.eq_false_iff.mpr fun gone => ?_
        exact not_sound_answered_aborted known sound was gone _ after
      · intro alive
        exact sound_answered_alive known sound was running alive _
  | some first =>
      rw [deferred, marked, if_pos Option.isSome_some, iff_true_right (Option.some_ne_none first)]
      constructor
      · intro after
        refine Bool.not_eq_false _ ▸ fun alive => ?_
        have once := (after.requests number _ (requests_put_self ..)).once alive
        have before := fine.once alive
        rw [if_neg (by rintro same; rw [same] at running; cases running)] at before
        exact absurd (before.symm.trans (once.trans (if_pos rfl))) (by decide)
      · intro gone
        refine (sound.erase request.rep).put ⟨fine.untouched, fun alive => ?_,
          fun _ _ => Stage.noConfusion⟩ ?_
        · exact nomatch gone.symm.trans alive
        · intro rep entry
          obtain ⟨elsewhere, entry⟩ := abortReps_erase entry
          obtain ⟨_, same, address, _⟩ := known.entry rep number entry
          cases was.symm.trans same
          exact absurd address.symm elsewhere

/-- An event keeps the bookkeeping right exactly when it is admitted. -/
theorem sound_step (known : apps.Known) (sound : apps.Sound)
    (stepped : apps.step event = some next) : next.Sound ↔ apps.Admitted event := by
  cases event with
  | get number rep url ready =>
      obtain ⟨⟨fresh, _⟩, stepped⟩ := Option.ite_none_right_eq_some.mp stepped
      cases stepped
      exact iff_of_true (sound.accept fresh (sound_getResource rep url ready)) trivial
  | dealer number rep querystr =>
      obtain ⟨⟨fresh, _⟩, stepped⟩ := Option.ite_none_right_eq_some.mp stepped
      cases stepped
      exact iff_of_true (sound.accept fresh (sound_dealer rep querystr)) trivial
  | data number chunk isEnd =>
      obtain ⟨request, was, stepped⟩ := Option.bind_eq_some_iff.mp stepped
      obtain ⟨⟨receiving, _, alive⟩, stepped⟩ := Option.ite_none_right_eq_some.mp stepped
      cases stepped
      simpa [Admitted, was] using sound_datadealer sound was receiving alive chunk isEnd
  | aborted number =>
      obtain ⟨request, was, stepped⟩ := Option.bind_eq_some_iff.mp stepped
      obtain ⟨⟨alive, unended⟩, stepped⟩ := Option.ite_none_right_eq_some.mp stepped
      cases stepped
      simpa [Admitted, was] using sound_onAborted sound was alive unended
  | deferred number resp =>
      obtain ⟨request, was, stepped⟩ := Option.bind_eq_some_iff.mp stepped
      obtain ⟨running, stepped⟩ := Option.ite_none_right_eq_some.mp stepped
      cases stepped
      simpa [Admitted, was] using sound_deferred known sound was running resp

/-- Before the first request the bookkeeping is right. -/
theorem sound_initial : Sound {} where
  requests _ _ was := nomatch was
  entries _ _ entry := nomatch entry

/-- The bookkeeping of aborted responses is right in every state of a run if and only if every
step of it is admitted. -/
theorem sound_throughout_iff (events : List Event) (final : Apps)
    (ran : Machine.run step {} events = some final) :
    Machine.Throughout step Sound {} events ↔ Machine.Every step Admitted {} events :=
  Machine.throughout_iff_every Known Sound Admitted (fun known _ => known.step) sound_step
    known_initial sound_initial ran

/-- A response which is aborted before its callback. -/
theorem sound_throughout_iff_abort :
    Machine.Throughout step Sound {} [.dealer 0 7 "q", .data 0 "" true, .aborted 0,
        .deferred 0 none] ↔
      Machine.Every step Admitted {} [.dealer 0 7 "q", .data 0 "" true, .aborted 0,
        .deferred 0 none] :=
  sound_throughout_iff _ _ rfl

/-- A request aborted during its body leaves an entry, which swallows the body of the next request
at its address. -/
theorem sound_fails :
    ∃ final, Machine.run step {} [.dealer 0 7 "q", .aborted 0, .dealer 1 7 "q",
        .data 1 "body" true] = some final ∧
      final.requests 1 =
        some { rep := 7, stage := .receiving, querystr := "q", complete := true } ∧
      ¬ Sound final := by
  refine ⟨_, rfl, rfl, ?_⟩
  intro sound
  exact (sound.requests 1 _ rfl).served rfl rfl rfl

end Apps

end SM.Inc
