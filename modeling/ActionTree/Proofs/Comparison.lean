import Mathlib.Data.List.TakeWhile
import ActionTree.Expr.Compare

/-!
# ActionTree.Proofs.Comparison

How far the comparisons fit together.

1. the order of two values turns round when they change places, the order of
   their numbers as well as the order of their texts;
2. one text spells a number that compares with nothing: `nan`, in any case and
   with a sign or none (`SpellsUndefined`); no other value does;
3. two values have no order if and only if both are numbers to a comparison and
   one of them is that one (`Unordered`).  All others are before, equal to or
   behind each other, and exactly one of the three.

`comparisons_consistent` is the sum of this for the six operators.
-/

namespace ActionTree

open Text

/-! ## The undefined number -/

/-- Characters that spell the undefined number: `nan` in any case, a sign in
front or none. -/
def SpellsUndefined (cs : List Char) : Prop :=
  ∃ sign name : List Char, (sign = [] ∨ sign = ['-'] ∨ sign = ['+']) ∧
    name.map Char.toLower = ['n', 'a', 'n'] ∧ cs = sign ++ name

theorem Width.round_ne_undefined (w : Width) (negative : Bool) (num den : Nat) :
    w.round negative num den ≠ .undefined := by
  unfold Width.round
  split
  · simp
  · dsimp only
    split <;> split <;> simp

theorem Decimal.toWidth_ne_undefined (w : Width) (negative : Bool) (d : Decimal) :
    d.toWidth w negative ≠ .undefined := by
  unfold Decimal.toWidth
  split
  · simp
  · dsimp only
    split
    · simp
    · split
      · simp
      · exact Width.round_ne_undefined _ _ _ _

theorem readUnsigned_eq_undefined_iff {w : Width} {negative : Bool} {cs : List Char} :
    readUnsigned w negative cs = some .undefined ↔ cs.map Char.toLower = ['n', 'a', 'n'] := by
  unfold readUnsigned
  dsimp only
  split
  · simp [*]
  · rename_i hname
    simp only [hname, iff_false]
    split
    · simp
    · simp [Decimal.toWidth_ne_undefined]

theorem readWidth_eq_undefined_iff {w : Width} {cs : List Char} :
    readWidth w cs = some .undefined ↔ SpellsUndefined cs := by
  constructor
  · intro h
    unfold readWidth at h
    split at h
    · rename_i rest
      exact ⟨['-'], rest, by simp, readUnsigned_eq_undefined_iff.1 h, rfl⟩
    · rename_i rest
      exact ⟨['+'], rest, by simp, readUnsigned_eq_undefined_iff.1 h, rfl⟩
    · exact ⟨[], cs, by simp, readUnsigned_eq_undefined_iff.1 h, rfl⟩
  · rintro ⟨sign, name, hsign, hname, rfl⟩
    rcases hsign with rfl | rfl | rfl
    · -- a name that spells `nan` has no sign for a first character
      rw [List.nil_append]
      unfold readWidth
      split
      · exact absurd hname (by simp)
      · exact absurd hname (by simp)
      · exact readUnsigned_eq_undefined_iff.2 hname
    · exact readUnsigned_eq_undefined_iff.2 hname
    · exact readUnsigned_eq_undefined_iff.2 hname

/-! ## The order of numbers and of texts -/

theorem orderInt_self (a : Int) : orderInt a a = .eq := by simp [orderInt]

theorem orderInt_swap (a b : Int) : (orderInt a b).swap = orderInt b a := by
  unfold orderInt
  rcases Int.lt_trichotomy a b with h | h | h
  · simp [h, Int.le_of_lt h, Int.ne_of_gt h]
  · simp [h]
  · simp [h, Int.le_of_lt h, Int.ne_of_gt h]

namespace Double

theorem compare?_swap (x y : Double) : compare? y x = (compare? x y).map Ordering.swap := by
  cases x with
  | undefined => cases y <;> rfl
  | infinite a =>
    cases y with
    | undefined => rfl
    | infinite b => cases a <;> cases b <;> rfl
    | finite y => cases a <;> rfl
  | finite x =>
    cases y with
    | undefined => rfl
    | infinite b => cases b <;> rfl
    | finite y => simp [compare?, orderInt_swap]

theorem compare?_self {x : Double} (h : x ≠ .undefined) : compare? x x = some .eq := by
  cases x with
  | undefined => exact absurd rfl h
  | infinite a => simp [compare?]
  | finite x => simp [compare?, orderInt_self]

theorem compare?_eq_none_iff {x y : Double} :
    compare? x y = none ↔ x = .undefined ∨ y = .undefined := by
  cases x <;> cases y <;> simp [compare?]

end Double

namespace Expr

theorem orderChars_self (cs : List Char) : orderChars cs cs = .eq := by
  induction cs with
  | nil => rfl
  | cons c cs ih => simp [orderChars, ih]

theorem orderChars_swap (cs ds : List Char) : (orderChars cs ds).swap = orderChars ds cs := by
  induction cs generalizing ds with
  | nil => cases ds <;> rfl
  | cons c cs ih =>
    cases ds with
    | nil => rfl
    | cons d ds =>
      unfold orderChars
      rcases Nat.lt_trichotomy c.toNat d.toNat with h | h | h
      · simp [h, Nat.not_lt_of_gt h]
      · simp [h, ih]
      · simp [h, Nat.not_lt_of_gt h]

/-! ## The order of values -/

/-- A value that a comparison sees a number in. -/
def IsNumeric (v : Value) : Prop := v.toNumber?.isSome

/-- A text that spells the undefined number, blanks around it or none. -/
def NamesUndefined (v : Value) : Prop := ∃ s, v = .text s ∧ SpellsUndefined (trimChars s.toList)

/-- Two values that have no order: numbers to a comparison, one of them
undefined. -/
def Unordered (a b : Value) : Prop :=
  (NamesUndefined a ∧ IsNumeric b) ∨ (IsNumeric a ∧ NamesUndefined b)

theorem toNumber?_eq_undefined_iff {v : Value} :
    v.toNumber? = some .undefined ↔ NamesUndefined v := by
  have hint : ∀ n : Int, Double.ofInt n ≠ .undefined := fun n => Width.round_ne_undefined _ _ _ _
  cases v with
  | text s => simp [Value.toNumber?, NamesUndefined, Double.read?, trim, readWidth_eq_undefined_iff]
  | boolean b => simp [Value.toNumber?, NamesUndefined, hint]
  | number n => cases n <;> simp [Value.toNumber?, Number.toDouble, NamesUndefined, hint]
  | _ => simp [Value.toNumber?, NamesUndefined]

theorem NamesUndefined.isNumeric {v : Value} (h : NamesUndefined v) : IsNumeric v := by
  simp [IsNumeric, toNumber?_eq_undefined_iff.2 h]

/-- A blank text is no number, so the order of two numbers never depends on the
texts they were read from. -/
theorem toNumber?_of_isBlankValue {v : Value} (h : isBlankValue v = true) :
    v.toNumber? = none := by
  cases v with
  | text s =>
    have hall : s.toList.all Text.isBlank = true := h
    have htrim : trimChars s.toList = [] := by
      rw [trimChars, trimStart, List.dropWhile_eq_nil_iff.2 (List.all_eq_true.1 hall)]
      rfl
    simp [Value.toNumber?, Double.read?, trim, htrim, readWidth, readUnsigned, readDecimal]
  | _ => simp [isBlankValue] at h

theorem order?_of_numbers {a b : Value} {x y : Double} (ha : a.toNumber? = some x)
    (hb : b.toNumber? = some y) : order? a b = Double.compare? x y := by
  have hblank : ∀ {v : Value} {z : Double}, v.toNumber? = some z → isBlankValue v = false := by
    intro v z hv
    cases hbv : isBlankValue v with
    | false => rfl
    | true => simp [toNumber?_of_isBlankValue hbv] at hv
  simp [order?, ha, hb, hblank ha, hblank hb]

theorem order?_of_texts {a b : Value} (h : a.toNumber? = none ∨ b.toNumber? = none) :
    order? a b = some (orderChars a.toText.toList b.toText.toList) := by
  unfold order?
  split
  · simp_all
  · rfl

theorem order?_swap (a b : Value) : order? b a = (order? a b).map Ordering.swap := by
  cases ha : a.toNumber? with
  | none =>
    rw [order?_of_texts (.inl ha), order?_of_texts (.inr ha), Option.map_some, orderChars_swap]
  | some x =>
    cases hb : b.toNumber? with
    | none =>
      rw [order?_of_texts (.inl hb), order?_of_texts (.inr hb), Option.map_some, orderChars_swap]
    | some y => rw [order?_of_numbers ha hb, order?_of_numbers hb ha, Double.compare?_swap]

theorem order?_eq_none_iff {a b : Value} : order? a b = none ↔ Unordered a b := by
  simp only [Unordered, IsNumeric, ← toNumber?_eq_undefined_iff]
  cases ha : a.toNumber? with
  | none => simp [order?_of_texts (.inl ha)]
  | some x =>
    cases hb : b.toNumber? with
    | none => simp [order?_of_texts (.inr hb)]
    | some y => simp [order?_of_numbers ha hb, Double.compare?_eq_none_iff]

theorem order?_self {a : Value} (h : ¬ NamesUndefined a) : order? a a = some .eq := by
  rw [← toNumber?_eq_undefined_iff] at h
  cases ha : a.toNumber? with
  | none => rw [order?_of_texts (.inl ha), orderChars_self]
  | some x =>
    rw [order?_of_numbers ha ha, Double.compare?_self (fun hx => h (by rw [ha, hx]))]

/-! ## The operators -/

/-- Of values without an order every comparison but `ne` is false. -/
theorem compareValues_of_unordered {a b : Value} (h : Unordered a b) (op : Comparison) :
    compareValues op a b = (op == .ne) := by
  rw [compareValues, order?_eq_none_iff.2 h]
  cases op <;> rfl

/-- How many of before, equal and behind hold of an order: one, and none where
there is no order. -/
theorem countP_holds (o? : Option Ordering) :
    [Comparison.lt, .eq, .gt].countP (fun op => op.holds o?) = if o?.isSome then 1 else 0 := by
  rcases o? with - | o
  · rfl
  · cases o <;> rfl

/-- The comparisons of any two values fit together, and of `a < b`, `a = b` and
`a > b` exactly one holds, unless both values are numbers and one of them is
the undefined one: then none of the three holds.  That one does not even equal
itself, and nothing else fails to. -/
theorem comparisons_consistent (a b : Value) :
    ([Comparison.lt, .eq, .gt].countP (fun op => compareValues op a b) = 1 ↔ ¬ Unordered a b) ∧
      (compareValues .le a b = true ↔ compareValues .lt a b = true ∨ compareValues .eq a b = true) ∧
      (compareValues .ge a b = true ↔ compareValues .gt a b = true ∨ compareValues .eq a b = true) ∧
      (compareValues .ne a b = true ↔ ¬ compareValues .eq a b = true) ∧
      (compareValues .eq a a = true ↔ ¬ NamesUndefined a) ∧
      (compareValues .lt a b = true ↔ compareValues .gt b a = true) := by
  refine ⟨?exactlyOne, ?le, ?ge, ?ne, ?self, ?swap⟩
  case exactlyOne =>
    simp only [compareValues]
    rw [countP_holds, ← order?_eq_none_iff]
    cases order? a b <;> simp
  case self =>
    constructor
    · intro heq hun
      rw [compareValues_of_unordered (.inl ⟨hun, hun.isNumeric⟩)] at heq
      exact absurd heq (by decide)
    · intro hun
      rw [compareValues, order?_self hun]
      rfl
  case swap =>
    rw [compareValues, compareValues, order?_swap a b]
    rcases order? a b with - | o
    · simp [Comparison.holds]
    · cases o <;> simp [Comparison.holds]
  -- what is left relates operators on one and the same order
  all_goals
    simp only [compareValues]
    rcases order? a b with - | o
    · simp [Comparison.holds]
    · cases o <;> simp [Comparison.holds]

/-- The text `nan` differs from itself: none of before, equal and behind holds. -/
theorem undefined_differs_from_itself :
    compareValues .eq (.text "nan") (.text "nan") = false ∧
      [Comparison.lt, .eq, .gt].countP
        (fun op => compareValues op (.text "nan") (.text "nan")) = 0 := by
  decide

end Expr

end ActionTree
