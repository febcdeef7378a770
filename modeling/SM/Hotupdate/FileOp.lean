import SM.Utils.PackInt

/-!
# Resource files

`fileOp::asyncGetData` and the readers of files, cut at their suspension points.
`turned_of_turn` says what one step of a call does.
-/

namespace SM.Hotupdate

open SM.Utils

/-- The fields of a `fileOp`, and whether a reader has written past the end of `_datas`. -/
structure FileOp where
  datalen : Nat := 0
  datas : Bytes := []
  overrun : Bool := false
deriving DecidableEq

/-! ## Readers -/

/-- How the asynchronous reader starts. -/
inductive AsyncStart where
  | resizeThrows
  /-- An exception after the resize, which `getData` catches. -/
  | throws
  | openError
  | opened
deriving DecidableEq

/-- A reader up to its first suspension point. -/
inductive ReaderStart where
  | returned (bret : Bool)
  | thrown
  | suspended
deriving DecidableEq

/-- `resize` of a string. -/
def resize (dst : Bytes) (len : Nat) : Bytes := dst.take len ++ List.replicate (len - dst.length) 0

/-- `fileOpASync::getData` up to `async_read_some_at`. -/
def FileOpASync.getData (dst : Bytes) (len : Nat) (start : AsyncStart) : Bytes × ReaderStart :=
  if len = 0 then (dst, .returned false)
  else
    match start with
    | .resizeThrows => (dst, .thrown)
    | .throws => (resize dst len, .returned true)
    | .openError => (resize dst len, .returned false)
    | .opened => (resize dst len, .suspended)

/-- `fileOpSync::getData` up to the wait for its coroutine. -/
def FileOpSync.getData (len : Nat) (spawns : Bool) : ReaderStart :=
  if len = 0 then .returned false else if spawns then .suspended else .thrown

/-- How a read ends: after the given number of bytes, or with an error and no bytes. -/
inductive ReadOutcome where
  | bytes (count : Nat)
  | failed
deriving DecidableEq

/-- The bytes which a read of at most `len` bytes takes from the start of the file. -/
def ReadOutcome.taken (outcome : ReadOutcome) (content : Bytes) (len : Nat) : Bytes :=
  match outcome with
  | .bytes count => (content.take count).take len
  | .failed => []

/-- The buffer after bytes were written to its start. -/
def overwrite (dst bytes : Bytes) : Bytes := bytes.take dst.length ++ dst.drop bytes.length

/-! ## Calls -/

/-- Where a call of `asyncGetData` stands. -/
inductive Stage where
  | idle
  /-- It waits for `async_read_some_at`. -/
  | reading
  /-- It waits for the coroutine of the synchronous reader, which has not run. -/
  | spawned
  /-- That coroutine has run and has read so many bytes. -/
  | notified (count : Nat)
  /-- It waits for the load of another call. -/
  | waiting
  | returned (ret : Bytes)
deriving DecidableEq

/-- What a call meets before it is suspended. -/
structure Opening where
  /-- The file exists and its size is found. -/
  sized : Bool
  start : AsyncStart
  /-- `co_spawn` does not throw. -/
  spawns : Bool
deriving DecidableEq

/-- The size of the file, which is not asked again once it is known. -/
def FileOp.getFileSize (file : FileOp) (content : Bytes) (sized : Bool) : Nat :=
  if file.datalen ≠ 0 then file.datalen else if sized then content.length else 0

/-- The rest of `asyncGetData` when no reader has succeeded before. -/
def FileOp.readSync (file : FileOp) (spawns : Bool) : FileOp × Stage :=
  match FileOpSync.getData file.datalen spawns with
  | .suspended => (file, .spawned)
  | .returned _ => (file, .returned file.datas)
  | .thrown => (file, .returned file.datas)

/-- `asyncGetData` up to its first suspension point. `asyncBuilt` says whether
`ASIO_HAS_IO_URING` or `_WIN32` is defined. -/
def FileOp.asyncGetData (asyncBuilt : Bool) (content : Bytes) (file : FileOp) (opening : Opening) :
    FileOp × Stage :=
  if file.datas.isEmpty && file.datalen == 0 then
    let filesize := file.getFileSize content opening.sized
    let file := { file with datalen := filesize }
    if filesize = 0 then (file, .returned [])
    else if asyncBuilt then
      match FileOpASync.getData file.datas filesize opening.start with
      | (datas, .suspended) => ({ file with datas }, .reading)
      | (datas, .returned true) => ({ file with datas }, .returned datas)
      | (datas, .returned false) => FileOp.readSync { file with datas } opening.spawns
      | (datas, .thrown) => ({ file with datas }, .returned datas)
    else file.readSync opening.spawns
  else if file.datalen > 0 && file.datas.isEmpty then (file, .waiting)
  else (file, .returned file.datas)

/-- A step of one call. -/
inductive Action where
  | call (opening : Opening)
  /-- `async_read_some_at` ends. -/
  | read (outcome : ReadOutcome)
  /-- The coroutine of the synchronous reader runs. -/
  | readSync (outcome : ReadOutcome)
  /-- The wait for that coroutine ends. -/
  | resume
  /-- The wait for another call ends: by `trigger_all`, by its time limit, or because another
  wait moves the time limit. -/
  | wake
deriving DecidableEq

/-- What a step does to the `fileOp` and to the call. -/
def FileOp.turn (asyncBuilt : Bool) (content : Bytes) (file : FileOp) :
    Stage → Action → Option (FileOp × Stage)
  | .idle, .call opening => some (file.asyncGetData asyncBuilt content opening)
  | .reading, .read outcome =>
      let datas := overwrite file.datas (outcome.taken content file.datas.length)
      some ({ file with datas }, .returned datas)
  | .spawned, .readSync outcome =>
      let bytes := outcome.taken content file.datalen
      some ({ file with
        datas := overwrite file.datas bytes
        overrun := file.overrun || decide (file.datas.length < bytes.length) },
        .notified bytes.length)
  | .notified _, .resume => some (file, .returned file.datas)
  | .waiting, .wake => some (file, .returned file.datas)
  | _, _ => none

/-- The file as far as it was read, in a buffer of its size. -/
def filledTo (content : Bytes) (count : Nat) : Bytes :=
  content.take count ++ List.replicate (content.length - count) 0

/-- A buffer which is filled in part has the length of the file. -/
@[simp] theorem length_filledTo (content : Bytes) (count : Nat) :
    (filledTo content count).length = content.length := by
  simp only [filledTo, List.length_append, List.length_take, List.length_replicate]
  omega

/-- A buffer which is filled to its end is the file. -/
theorem filledTo_length (content : Bytes) : filledTo content content.length = content := by
  simp [filledTo]

/-- A fresh buffer has none of the bytes of the file yet. -/
theorem resize_nil (content : Bytes) : resize [] content.length = filledTo content 0 := by
  simp [resize, filledTo]

/-- Into an empty buffer nothing is written. -/
theorem overwrite_nil (bytes : Bytes) : overwrite [] bytes = [] := by
  simp [overwrite]

/-- A read into a fresh buffer. -/
theorem overwrite_filledTo {content : Bytes} {count : Nat} (bound : count ≤ content.length) :
    overwrite (filledTo content 0) (content.take count) = filledTo content count := by
  have all : (content.take count).take content.length = content.take count := by
    rw [List.take_take, Nat.min_eq_right bound]
  rw [overwrite, length_filledTo, all, List.length_take, Nat.min_eq_left bound]
  simp [filledTo]

/-- A buffer for a file which is not empty is not empty. -/
theorem filledTo_ne_nil {content : Bytes} (filled : content ≠ []) (count : Nat) :
    filledTo content count ≠ [] := by
  rw [ne_eq, ← List.length_eq_zero_iff, length_filledTo, List.length_eq_zero_iff]
  exact filled

/-- What a read takes is a beginning of the file. -/
theorem ReadOutcome.taken_eq_take (outcome : ReadOutcome) (content : Bytes) (len : Nat) :
    outcome.taken content len = content.take (outcome.taken content len).length ∧
      (outcome.taken content len).length ≤ content.length := by
  cases outcome with
  | failed => simp [taken]
  | bytes count =>
      simp only [taken, List.take_take, List.length_take]
      constructor
      · rw [List.take_eq_take_iff]
        omega
      · omega

/-- Every error of the asynchronous reader leads to the synchronous one. -/
def Opening.Orderly (opening : Opening) : Prop :=
  opening.start ≠ .throws ∧ (opening.start = .openError → opening.spawns = true)

/-- The steps of a call. -/
inductive Turned (asyncBuilt : Bool) (content : Bytes) (file : FileOp) :
    Stage → Action → FileOp → Stage → Prop
  | cached {opening : Opening} : file.datas ≠ [] →
      Turned asyncBuilt content file .idle (.call opening) file (.returned file.datas)
  | waits {opening : Opening} : file.datas = [] → 0 < file.datalen →
      Turned asyncBuilt content file .idle (.call opening) file .waiting
  | absent {opening : Opening} : file.datas = [] → file.datalen = 0 →
      (opening.sized = true → content = []) →
      Turned asyncBuilt content file .idle (.call opening) file (.returned [])
  /-- The load goes on without a buffer, or ends. -/
  | unresized {opening : Opening} {stage : Stage} : file.datas = [] → file.datalen = 0 →
      content ≠ [] → (asyncBuilt = true → opening.Orderly) →
      stage = .spawned ∨ stage = .returned [] →
      Turned asyncBuilt content file .idle (.call opening)
        { file with datalen := content.length } stage
  | loads {opening : Opening} {stage : Stage} : file.datas = [] → file.datalen = 0 →
      content ≠ [] → opening.Orderly → stage = .reading ∨ stage = .spawned →
      Turned asyncBuilt content file .idle (.call opening)
        { file with datalen := content.length, datas := filledTo content 0 } stage
  | placeholder {opening : Opening} : file.datas = [] → file.datalen = 0 → content ≠ [] →
      asyncBuilt = true → opening.sized = true → ¬ opening.Orderly →
      Turned asyncBuilt content file .idle (.call opening)
        { file with datalen := content.length, datas := filledTo content 0 }
        (.returned (filledTo content 0))
  | read {outcome : ReadOutcome} : Turned asyncBuilt content file .reading (.read outcome)
      { file with datas := overwrite file.datas (outcome.taken content file.datas.length) }
      (.returned (overwrite file.datas (outcome.taken content file.datas.length)))
  | readSync {outcome : ReadOutcome} : Turned asyncBuilt content file .spawned (.readSync outcome)
      { file with
        datas := overwrite file.datas (outcome.taken content file.datalen)
        overrun := file.overrun ||
          decide (file.datas.length < (outcome.taken content file.datalen).length) }
      (.notified (outcome.taken content file.datalen).length)
  | resume {count : Nat} :
      Turned asyncBuilt content file (.notified count) .resume file (.returned file.datas)
  | wake : Turned asyncBuilt content file .waiting .wake file (.returned file.datas)

/-- A call which finds no buffer and no size. -/
theorem turned_fresh (asyncBuilt : Bool) (content : Bytes) (overrun : Bool) (opening : Opening) :
    Turned asyncBuilt content ⟨0, [], overrun⟩ .idle (.call opening)
      (FileOp.asyncGetData asyncBuilt content ⟨0, [], overrun⟩ opening).1
      (FileOp.asyncGetData asyncBuilt content ⟨0, [], overrun⟩ opening).2 := by
  by_cases found : opening.sized = true ∧ content ≠ []
  · obtain ⟨sized, filled⟩ := found
    have known : content.length ≠ 0 := mt List.length_eq_zero_iff.mp filled
    cases asyncBuilt with
    | false =>
        cases spawns : opening.spawns <;>
          simp only [FileOp.asyncGetData, FileOp.getFileSize, FileOp.readSync,
            FileOpSync.getData, sized, known, spawns, List.isEmpty_nil, beq_self_eq_true,
            Bool.and_self, ne_eq, not_true_eq_false, if_true, if_false, Bool.false_eq_true]
        · exact .unresized rfl rfl filled Bool.noConfusion (.inr rfl)
        · exact .unresized rfl rfl filled Bool.noConfusion (.inl rfl)
    | true =>
        cases start : opening.start <;>
          simp only [FileOp.asyncGetData, FileOp.getFileSize, FileOpASync.getData, sized, known,
            start, List.isEmpty_nil, beq_self_eq_true, Bool.and_self, ne_eq,
            not_true_eq_false, if_true, if_false, resize_nil]
        · exact .unresized rfl rfl filled (fun _ => ⟨by simp [start], by simp [start]⟩) (.inr rfl)
        · exact .placeholder rfl rfl filled rfl sized fun orderly => orderly.1 start
        · simp only [FileOp.readSync, FileOpSync.getData, known, if_false]
          cases spawns : opening.spawns with
          | false =>
              exact .placeholder rfl rfl filled rfl sized fun orderly =>
                absurd (orderly.2 start) (by simp [spawns])
          | true => exact .loads rfl rfl filled ⟨by simp [start], fun _ => spawns⟩ (.inr rfl)
        · exact .loads rfl rfl filled ⟨by simp [start], by simp [start]⟩ (.inl rfl)
  · have nothing : FileOp.getFileSize ⟨0, [], overrun⟩ content opening.sized = 0 := by
      simp only [FileOp.getFileSize, ne_eq, not_true_eq_false, if_false, ite_eq_right_iff,
        List.length_eq_zero_iff]
      intro sized
      exact Decidable.not_not.mp fun filled => found ⟨sized, filled⟩
    simp only [FileOp.asyncGetData, nothing, List.isEmpty_nil, beq_self_eq_true, Bool.and_self,
      if_true]
    refine .absent rfl rfl fun sized => ?_
    exact Decidable.not_not.mp fun filled => found ⟨sized, filled⟩

/-- The first statements of a call are a turn. -/
theorem turned_asyncGetData (asyncBuilt : Bool) (content : Bytes) (file : FileOp)
    (opening : Opening) :
    Turned asyncBuilt content file .idle (.call opening)
      (file.asyncGetData asyncBuilt content opening).1
      (file.asyncGetData asyncBuilt content opening).2 := by
  obtain ⟨datalen, datas, overrun⟩ := file
  cases datas with
  | cons byte datas =>
      have cached :
          FileOp.asyncGetData asyncBuilt content ⟨datalen, byte :: datas, overrun⟩ opening =
            (⟨datalen, byte :: datas, overrun⟩, .returned (byte :: datas)) := by
        simp [FileOp.asyncGetData]
      rw [cached]
      exact .cached (List.cons_ne_nil byte datas)
  | nil =>
      cases datalen with
      | zero => exact turned_fresh asyncBuilt content overrun opening
      | succ datalen => exact .waits rfl (Nat.zero_lt_succ datalen)

/-- Every step of a call is one of these. -/
theorem turned_of_turn {asyncBuilt : Bool} {content : Bytes} {file next : FileOp}
    {stage after : Stage} {action : Action}
    (turned : file.turn asyncBuilt content stage action = some (next, after)) :
    Turned asyncBuilt content file stage action next after := by
  cases stage <;> cases action <;>
    simp only [FileOp.turn, Option.some.injEq, Prod.mk.injEq, reduceCtorEq] at turned
  · have opened := turned_asyncGetData asyncBuilt content file ‹Opening›
    rw [turned] at opened
    exact opened
  all_goals obtain ⟨rfl, rfl⟩ := turned
  · exact .read
  · exact .readSync
  · exact .resume
  · exact .wake

end SM.Hotupdate
