import RootedStorage.Json.Decoder

/-!
# What accepted values are like

A reader that gives a value has found it in a text that it accepts, so the value has every property that
the reader checks on its way.  `Yields P read` says that the values that `read` gives have the property
`P`.  It passes from the readers of parts to those of objects and records: a member of an object keeps
what holds of the state so far, and so do all members (`yields_allMembers`).
-/

namespace RootedStorage.Json

variable {α β σ : Type} {P : α → Prop} {Q : β → Prop}

/-! ## Steps -/

/-- If the step gives a value, the value has the property. -/
def Step.Within (P : α → Prop) (step : Step α) : Prop := ∀ a rest, step = .value a rest → P a

/-- The values that the reader gives have the property. -/
def Yields (P : α → Prop) (read : Reader α) : Prop := ∀ s, (read s).Within P

/-- Every step stays within no bound at all. -/
theorem Step.within_any (step : Step α) : step.Within fun _ => True := fun _ _ _ => trivial

/-- A step that gives a value stays within what holds of the value. -/
theorem Step.within_value {a : α} (h : P a) (rest : Bytes) : (Step.value a rest).Within P := by
  intro x rest' heq
  cases heq
  exact h

/-- A step that fails gives nothing to bound. -/
theorem Step.within_failure (fault : Fault) (place : Option Nat) (rest : Bytes) :
    (Step.failure fault place rest : Step α).Within P := by
  intro x rest' heq
  cases heq

/-- A step that is followed by another one stays within the second one's bound. -/
theorem Step.Within.andThen {step : Step α} (h : step.Within P) {next : α → Reader β}
    (hnext : ∀ a, P a → Yields Q (next a)) : (step.andThen next).Within Q := by
  cases step with
  | value a rest => exact hnext a (h a rest rfl) rest
  | failure fault place rest => exact within_failure fault place rest

/-- What holds of a value's image holds of the step's image. -/
theorem Step.Within.map {step : Step α} (h : step.Within P) {f : α → β}
    (hf : ∀ a, P a → Q (f a)) : (step.map f).Within Q :=
  h.andThen fun a ha rest => within_value (hf a ha) rest

/-- Placing a fault changes no value. -/
theorem Step.Within.placed {step : Step α} (h : step.Within P) : step.placed.Within P := by
  cases step with
  | value a rest => exact h
  | failure fault place rest =>
    cases place with
    | none => exact within_failure fault _ rest
    | some left => exact within_failure fault _ rest

/-- Reading what closes a value does not change it. -/
theorem within_closing {close : Reader Unit} {step : Step α} (h : step.Within P) :
    (closing close step).Within P := by
  cases step with
  | value a rest => exact (Step.within_any (close rest)).map fun _ _ => h a rest rfl
  | failure fault place rest =>
    unfold closing
    dsimp only
    split
    · exact Step.within_failure fault place _
    · exact Step.within_failure fault place _

/-- A value of an unexpected kind is not given. -/
theorem within_unexpected (wanted : String) (s : Bytes) : (unexpected wanted s).Within P := by
  unfold unexpected
  dsimp only
  split
  · exact Step.within_failure _ _ _
  · -- a value is read off before it is refused, whatever it is
    repeat' split
    all_goals
      first
        | exact Step.within_failure _ _ _
        | exact (Step.within_any _).andThen fun _ _ _ => Step.within_failure _ _ _

/-! ## Values -/

/-- A natural number that is read is below its limit. -/
theorem yields_natural (limit : Nat) (wanted : String) :
    Yields (fun n => n < limit) (natural limit wanted) := by
  intro s
  unfold natural
  extract_lets check
  have hcheck : ∀ n, Yields (fun n => n < limit) (check n) := by
    intro n rest
    dsimp only [check]
    split
    · split
      · exact Step.within_value ‹_› rest
      · exact Step.within_failure _ _ _
    · exact Step.within_failure _ _ _
    · exact Step.within_failure _ _ _
  split
  · exact Step.within_failure _ _ _
  · apply Step.Within.placed
    split
    · exact (Step.within_any _).andThen fun n _ => hcheck n
    · split
      · exact (Step.within_any _).andThen fun n _ => hcheck n
      · exact within_unexpected wanted _

/-- A value that may be null is within the bound if it is there. -/
theorem yields_optional {read : Reader α} (h : Yields P read) :
    Yields (fun a => ∀ x ∈ a, P x) (optional read) := by
  intro s
  unfold optional
  split
  · exact (Step.within_any _).map fun _ _ x hx => by cases hx
  · exact (h _).map fun a ha x hx => by
      obtain rfl := Option.some.inj hx
      exact ha

/-! ## Objects -/

/-- The value of a member is within the bound of its reader. -/
theorem yields_memberValue {read : Reader α} (h : Yields P read) : Yields P (memberValue read) := by
  intro s
  exact (Step.within_any (colon s)).andThen fun _ _ => h

/-- A member that is read once is set to a value within its bound. -/
theorem yields_once {R : σ → Prop} (name : String) (present : Option α) {read : Reader α}
    (h : Yields P read) {set : α → σ} (hset : ∀ a, P a → R (set a)) :
    Yields R (once name present read set) := by
  intro s
  unfold once
  split
  · exact Step.within_failure _ _ _
  · exact (yields_memberValue h s).map hset

/-- A member that is ignored leaves the state as it was. -/
theorem yields_ignored {R : σ → Prop} {state : σ} (h : R state) : Yields R (ignored state) := by
  intro s
  exact (Step.within_any (memberValue skipValue s)).map fun _ _ => h

/-- A value that must be there is within the bound if it is there. -/
theorem yields_required (name : String) {value : Option α} (h : ∀ a ∈ value, P a) :
    Yields P (required name value) := by
  intro s
  cases value with
  | none => exact Step.within_failure _ _ _
  | some a => exact Step.within_value (h a rfl) s

/-- What every member keeps holds behind the last one. -/
theorem yields_members {R : σ → Prop} {member : σ → String → Reader σ}
    (hmember : ∀ state key, R state → Yields R (member state key)) (fuel : Nat) (first : Bool)
    {state : σ} (h : R state) : Yields R (members member fuel first state) := by
  induction fuel generalizing first state with
  | zero =>
    intro s
    exact Step.within_failure _ _ _
  | succ fuel ih =>
    intro s
    rw [members]
    refine (Step.within_any (nextKey first s)).andThen fun more _ rest => ?_
    split
    · exact Step.within_value h rest
    · refine (Step.within_any (stringBody (rest.drop 1))).andThen fun key _ rest => ?_
      exact (hmember state key h rest).andThen fun next hnext => ih false hnext

/-- What holds at the start and is kept by each member holds at the end of an object. -/
theorem yields_allMembers {R : σ → Prop} {member : σ → String → Reader σ}
    (hmember : ∀ state key, R state → Yields R (member state key)) {state : σ} (h : R state) :
    Yields R (allMembers member state) :=
  fun s => yields_members hmember (s.length + 1) true h s

/-! ## Records -/

/-- A field of a list is within its bound, also where its default stands in. -/
theorem yields_fieldAt (index : Nat) (wanted : String) {default : Option α} {read : Reader α}
    (hdefault : ∀ a ∈ default, P a) (h : Yields P read) :
    Yields P (fieldAt index wanted default read) := by
  intro s
  refine (Step.within_any (nextElement (index = 0) s)).andThen fun more _ rest => ?_
  split
  · exact h rest
  · split
    · exact Step.within_value (hdefault _ rfl) rest
    · exact Step.within_failure _ _ _

/-- A record is within a bound that it keeps both as an object and as a list. -/
theorem yields_record (wanted : String) {ofObject ofList : Reader α} (hobject : Yields P ofObject)
    (hlist : Yields P ofList) : Yields P (record wanted ofObject ofList) := by
  intro s
  unfold record
  split
  · exact Step.within_failure _ _ _
  · apply Step.Within.placed
    split
    · exact within_closing (hlist _)
    · split
      · exact within_closing (hobject _)
      · exact within_unexpected wanted _

/-- What a text is decoded as has the properties of what the reader gives. -/
theorem of_decode {read : Reader α} (h : Yields P read) {text : String} {a : α}
    (hdecode : decode read text = .ok a) : P a := by
  have hread := h (Utf8.encode text)
  unfold decode at hdecode
  dsimp only at hdecode
  cases hstep : read (Utf8.encode text) with
  | failure fault place rest =>
    rw [hstep] at hdecode
    cases hdecode
  | value x rest =>
    rw [hstep] at hdecode
    have hx : P x := hread x rest hstep
    simp only [Step.andThen] at hdecode
    cases hrest : skip rest with
    | nil =>
      rw [hrest] at hdecode
      obtain rfl := Except.ok.inj hdecode
      exact hx
    | cons b left =>
      rw [hrest] at hdecode
      cases hdecode

end RootedStorage.Json
