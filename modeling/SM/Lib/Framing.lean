/-!
# Self-delimiting frames

A `Framing` describes a language of frames in which the end of a frame is
determined by its own symbols. `Framing.frames` splits a finite input into the
frames it starts with. `frames_encodeAll_append` is the round trip, and
`frames_decompose` says what was split.
-/

namespace SM.Lib

/-- A frame language with a decoder for the first frame of an input. -/
structure Framing (Symbol Frame : Type) where
  Valid : Frame → Prop
  encode : Frame → List Symbol
  next : List Symbol → Option (Frame × List Symbol)
  /-- The decoder finds a frame exactly when the input starts with its encoding. -/
  next_eq_some_iff : ∀ {input frame rest},
    next input = some (frame, rest) ↔ Valid frame ∧ input = encode frame ++ rest
  encode_ne_nil : ∀ frame, encode frame ≠ []

namespace Framing

variable {Symbol Frame : Type} (framing : Framing Symbol Frame)

/-- The concatenated encodings of a list of frames. -/
def encodeAll (frames : List Frame) : List Symbol := frames.flatMap framing.encode

/-- The first `count` frames an input starts with, or fewer when it holds fewer. -/
def framesWithin : Nat → List Symbol → List Frame
  | 0, _ => []
  | count + 1, input =>
      match framing.next input with
      | none => []
      | some (frame, rest) => frame :: framesWithin count rest

/-- Every frame an input starts with. No input holds more frames than symbols. -/
def frames (input : List Symbol) : List Frame := framing.framesWithin input.length input

@[simp] theorem encodeAll_nil : framing.encodeAll [] = [] := rfl

@[simp] theorem encodeAll_cons (frame : Frame) (rest : List Frame) :
    framing.encodeAll (frame :: rest) = framing.encode frame ++ framing.encodeAll rest := rfl

@[simp] theorem encodeAll_append (first second : List Frame) :
    framing.encodeAll (first ++ second) = framing.encodeAll first ++ framing.encodeAll second :=
  List.flatMap_append

/-- The first frame of an input is found. -/
theorem next_encode {frame : Frame} (valid : framing.Valid frame) (rest : List Symbol) :
    framing.next (framing.encode frame ++ rest) = some (frame, rest) :=
  framing.next_eq_some_iff.mpr ⟨valid, rfl⟩

/-- Taking a frame off an input makes it shorter. -/
theorem length_lt_of_next {input rest : List Symbol} {frame : Frame}
    (found : framing.next input = some (frame, rest)) : rest.length < input.length := by
  obtain ⟨_, rfl⟩ := framing.next_eq_some_iff.mp found
  have nonempty := List.length_pos_iff.mpr (framing.encode_ne_nil frame)
  simp only [List.length_append]
  omega

/-- A count of at least the input's length finds every frame. -/
theorem framesWithin_eq_frames {count : Nat} {input : List Symbol}
    (enough : input.length ≤ count) : framing.framesWithin count input = framing.frames input := by
  have stable : ∀ (bound first second : Nat) (input : List Symbol), input.length ≤ bound →
      bound ≤ first → bound ≤ second →
      framing.framesWithin first input = framing.framesWithin second input := by
    intro bound
    induction bound with
    | zero =>
        intro first second input short _ _
        have empty : input = [] := List.eq_nil_of_length_eq_zero (by omega)
        have stuck : framing.next [] = none := by
          cases found : framing.next [] with
          | none => rfl
          | some decoded => exact absurd (framing.length_lt_of_next found) (by simp)
        subst empty
        cases first <;> cases second <;> simp [framesWithin, stuck]
    | succ bound inductionHypothesis =>
        intro first second input short firstEnough secondEnough
        obtain ⟨first, rfl⟩ : ∃ smaller, first = smaller + 1 := ⟨first - 1, by omega⟩
        obtain ⟨second, rfl⟩ : ∃ smaller, second = smaller + 1 := ⟨second - 1, by omega⟩
        cases found : framing.next input with
        | none => simp [framesWithin, found]
        | some decoded =>
            have shorter : decoded.2.length < input.length := framing.length_lt_of_next found
            simp only [framesWithin, found, List.cons.injEq, true_and]
            exact inductionHypothesis _ _ _ (by omega) (by omega) (by omega)
  exact stable input.length count input.length input (Nat.le_refl _) enough (Nat.le_refl _)

/-- Where no frame is found there is none. -/
theorem frames_of_none {input : List Symbol} (stuck : framing.next input = none) :
    framing.frames input = [] := by
  rw [← framing.framesWithin_eq_frames (Nat.le_succ _)]
  simp [framesWithin, stuck]

/-- A frame which is found comes first. -/
theorem frames_of_some {input rest : List Symbol} {frame : Frame}
    (found : framing.next input = some (frame, rest)) :
    framing.frames input = frame :: framing.frames rest := by
  rw [← framing.framesWithin_eq_frames (Nat.le_succ _)]
  simp only [framesWithin, found]
  rw [framing.framesWithin_eq_frames (Nat.le_of_lt (framing.length_lt_of_next found))]

@[simp] theorem frames_nil : framing.frames [] = [] := rfl

/-- Bounding the number of frames takes that many of all of them. -/
theorem framesWithin_eq_take (count : Nat) (input : List Symbol) :
    framing.framesWithin count input = (framing.frames input).take count := by
  induction count generalizing input with
  | zero => simp [framesWithin]
  | succ count inductionHypothesis =>
      cases found : framing.next input with
      | none => simp [framesWithin, found, framing.frames_of_none found]
      | some decoded =>
          obtain ⟨frame, rest⟩ := decoded
          simp [framesWithin, found, framing.frames_of_some found, inductionHypothesis]

/-- Round trip: encoded valid frames are split off, and the rest is split as before. -/
theorem frames_encodeAll_append {sent : List Frame} (valid : ∀ frame ∈ sent, framing.Valid frame)
    (rest : List Symbol) :
    framing.frames (framing.encodeAll sent ++ rest) = sent ++ framing.frames rest := by
  induction sent with
  | nil => rfl
  | cons frame sent inductionHypothesis =>
      rw [encodeAll_cons, List.append_assoc, framing.frames_of_some
        (framing.next_encode (valid frame List.mem_cons_self) _), inductionHypothesis
        (fun other member => valid other (List.mem_cons_of_mem _ member)), List.cons_append]

/-- What was encoded is split into itself. -/
theorem frames_encodeAll {sent : List Frame} (valid : ∀ frame ∈ sent, framing.Valid frame) :
    framing.frames (framing.encodeAll sent) = sent := by
  simpa using framing.frames_encodeAll_append valid []

/-- An input is the encoding of its frames followed by symbols which start no frame. -/
theorem frames_decompose (input : List Symbol) :
    (∀ frame ∈ framing.frames input, framing.Valid frame) ∧
      ∃ leftover, input = framing.encodeAll (framing.frames input) ++ leftover ∧
        framing.next leftover = none := by
  induction size : input.length using Nat.strongRecOn generalizing input with
  | ind size inductionHypothesis =>
      subst size
      cases found : framing.next input with
      | none =>
          rw [framing.frames_of_none found]
          exact ⟨by simp, input, by simp, found⟩
      | some decoded =>
          obtain ⟨frame, rest⟩ := decoded
          obtain ⟨restValid, leftover, restEq, stuck⟩ :=
            inductionHypothesis rest.length (framing.length_lt_of_next found) rest rfl
          obtain ⟨valid, inputEq⟩ := framing.next_eq_some_iff.mp found
          rw [framing.frames_of_some found]
          refine ⟨?_, leftover, ?_, stuck⟩
          · intro other member
            rcases List.mem_cons.mp member with rfl | member
            · exact valid
            · exact restValid other member
          · rw [encodeAll_cons, List.append_assoc, ← restEq, inputEq]

/-- Every frame found is preceded by the encodings of the frames before it. -/
theorem mem_frames_decompose {input : List Symbol} {frame : Frame}
    (member : frame ∈ framing.frames input) :
    ∃ before after, input = framing.encodeAll before ++ (framing.encode frame ++ after) ∧
      ∀ earlier ∈ before, framing.Valid earlier := by
  obtain ⟨valid, leftover, inputEq, _⟩ := framing.frames_decompose input
  obtain ⟨before, later, split⟩ := List.append_of_mem member
  refine ⟨before, framing.encodeAll later ++ leftover, ?_, ?_⟩
  · rw [inputEq, split]
    simp [List.append_assoc]
  · intro earlier earlierMember
    exact valid earlier (by rw [split]; exact List.mem_append_left _ earlierMember)

end Framing
end SM.Lib
