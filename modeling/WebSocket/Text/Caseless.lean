/-!
# Names that ignore the case of ASCII letters

Header names are compared letter by letter with `A` and `a` taken as equal.  Letters outside ASCII
keep their case.

## Main definitions

* `lower` — ASCII capitals turned into small letters.
* `Caseless` — equality of two names up to the case of ASCII letters.

## Main results

* `caseless_lower` — a name in small letters is the same name.
-/

namespace WebSocket

namespace Text

/-- `s` with every ASCII capital turned into the small letter. -/
def lower (s : String) : String := s.map Char.toLower

/-- Two names are equal up to the case of ASCII letters. -/
def Caseless (a b : String) : Prop := a.toList.map Char.toLower = b.toList.map Char.toLower

instance (a b : String) : Decidable (Caseless a b) := by
  unfold Caseless; infer_instance

theorem Caseless.refl (a : String) : Caseless a a := rfl

theorem Caseless.symm {a b : String} (h : Caseless a b) : Caseless b a := Eq.symm h

theorem Caseless.trans {a b c : String} (h : Caseless a b) (k : Caseless b c) : Caseless a c :=
  Eq.trans h k

theorem toLower_toLower (c : Char) : c.toLower.toLower = c.toLower := by
  by_cases hcapital : c.val ≥ 'A'.val ∧ c.val ≤ 'Z'.val
  · have hval : c.toLower.val = c.val + 32 := congrArg Char.val (dif_pos hcapital)
    have hsmall : ¬ (c.toLower.val ≥ 'A'.val ∧ c.toLower.val ≤ 'Z'.val) := by
      rw [hval]
      simp only [ge_iff_le, UInt32.le_iff_toNat_le, UInt32.toNat_add, Char.reduceVal,
        UInt32.reduceToNat] at hcapital ⊢
      omega
    exact dif_neg hsmall
  · have hsame : c.toLower = c := dif_neg hcapital
    rw [hsame, hsame]

/-- A name in small letters is the same name. -/
@[simp] theorem caseless_lower {a b : String} : Caseless (lower a) b ↔ Caseless a b := by
  have hidem : Char.toLower ∘ Char.toLower = Char.toLower := funext toLower_toLower
  simp only [Caseless, lower, String.toList_map, List.map_map, hidem]

end Text

end WebSocket
