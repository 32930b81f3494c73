import PlotStream.Proofs.Json.Encodable
import PlotStream.Value.Comparison

/-!
# Text as a name

Text comes in three forms: plain, torn, and as a scalar. All of them can be keys, go into other text,
and are equal when their code points are, by either of the two equalities of values.
-/

namespace PlotStream

namespace Value

/-- Text of any form. -/
def IsText (v : Value) : Prop :=
  v.codes?.isSome = true

namespace IsText

variable {v a b : Value}

theorem form (h : v.IsText) :
    (∃ s, v = .text s) ∨ (∃ codes, v = .torn codes) ∨ ∃ width s, v = .scalar (.text width) (.text s) := by
  unfold IsText codes? at h
  split at h
  · exact .inl ⟨_, rfl⟩
  · exact .inr (.inr ⟨_, _, rfl⟩)
  · exact .inr (.inl ⟨_, rfl⟩)
  · cases h

theorem interpolate (h : v.IsText) : Succeeds v.interpolate := by
  rcases h.form with ⟨s, rfl⟩ | ⟨codes, rfl⟩ | ⟨width, s, rfl⟩ <;>
    simp [Value.interpolate, toText, repr, atomText]

theorem unhashable? (h : v.IsText) : v.unhashable? = Option.none := by
  rcases h.form with ⟨s, rfl⟩ | ⟨codes, rfl⟩ | ⟨width, s, rfl⟩ <;> rfl

/-- No number is text. -/
theorem number? (h : v.IsText) : v.number? = Option.none := by
  rcases h.form with ⟨s, rfl⟩ | ⟨codes, rfl⟩ | ⟨width, s, rfl⟩ <;> rfl

theorem atomEqual (ha : a.IsText) (hb : b.IsText) : a.atomEqual b = decide (a.codes? = b.codes?) := by
  obtain ⟨as, has⟩ := Option.isSome_iff_exists.mp ha
  obtain ⟨bs, hbs⟩ := Option.isSome_iff_exists.mp hb
  rw [Value.atomEqual, ha.number?, has, hbs]
  simp [Bool.beq_eq_decide_eq]

theorem keyEqual (ha : a.IsText) (hb : b.IsText) : a.keyEqual b = decide (a.codes? = b.codes?) := by
  rw [← ha.atomEqual hb]
  rcases ha.form with ⟨s, rfl⟩ | ⟨codes, rfl⟩ | ⟨width, s, rfl⟩ <;> simp [Value.keyEqual]

theorem equal (ha : a.IsText) (hb : b.IsText) :
    a.equal b = .ok (.single (decide (a.codes? = b.codes?))) := by
  have hatom : a.atomSame b = decide (a.codes? = b.codes?) := by
    rw [atomSame, ha.number?, ← ha.atomEqual hb]
    simp
  have hheight : a.height + b.height = 2 := by
    rcases ha.form with ⟨s, rfl⟩ | ⟨codes, rfl⟩ | ⟨width, s, rfl⟩ <;>
      rcases hb.form with ⟨t, rfl⟩ | ⟨codes', rfl⟩ | ⟨width', t, rfl⟩ <;> rfl
  rw [Value.equal, hheight, ← hatom]
  rcases ha.form with ⟨s, rfl⟩ | ⟨codes, rfl⟩ | ⟨width, s, rfl⟩ <;>
    rcases hb.form with ⟨t, rfl⟩ | ⟨codes', rfl⟩ | ⟨width', t, rfl⟩ <;> rfl

end IsText

end Value

end PlotStream
