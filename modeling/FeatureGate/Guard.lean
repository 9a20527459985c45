/-!
# The dependency guard

While a feature with requirements is resolved for a context, it is *in flight*:
its frame, the feature and the context key joined by `|`, is on a stack. Coming
back to a frame in flight is a cycle. One guard lives for one resolution, from
the outermost feature asked for down to its last requirement.
-/

namespace FeatureGate

/-- **The frames in flight**, outermost first. -/
structure Guard where
  /-- The frames. -/
  frames : List String
deriving DecidableEq, Repr

namespace Guard

/-- Nothing is in flight. -/
def empty : Guard := ⟨[]⟩

instance : Inhabited Guard := ⟨empty⟩

/-- The frame of a feature and a context key. -/
def frame (feature key : String) : String := feature ++ "|" ++ key

/-- **Put a frame in flight**, unless it is already: then there is a cycle, and
nothing changes. -/
def enter? (guard : Guard) (frame : String) : Option Guard :=
  if guard.frames.contains frame then none else some ⟨guard.frames ++ [frame]⟩

/-- Take the innermost frame off. -/
def leave (guard : Guard) : Guard := ⟨guard.frames.dropLast⟩

/-- How many frames are in flight. -/
def depth (guard : Guard) : Nat := guard.frames.length

theorem enter?_eq_none_iff {guard : Guard} {frame : String} :
    guard.enter? frame = none ↔ frame ∈ guard.frames := by
  simp [enter?]

/-- **Entering puts a new frame on top.** -/
theorem frames_of_enter? {guard inside : Guard} {frame : String}
    (h : guard.enter? frame = some inside) : inside.frames = guard.frames ++ [frame] := by
  unfold enter? at h
  split at h
  · cases h
  · rw [← Option.some.inj h]

/-- What is entered was not in flight. -/
theorem notMem_of_enter? {guard inside : Guard} {frame : String}
    (h : guard.enter? frame = some inside) : frame ∉ guard.frames := by
  intro hmem
  rw [enter?_eq_none_iff.mpr hmem] at h
  cases h

/-- Leaving undoes entering. -/
theorem leave_of_enter? {guard inside : Guard} {frame : String}
    (h : guard.enter? frame = some inside) : inside.leave = guard := by
  unfold enter? at h
  split at h
  · cases h
  · cases h
    simp [leave]

end Guard

end FeatureGate
