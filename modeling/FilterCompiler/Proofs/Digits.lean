import Mathlib
import FilterCompiler.Text.Basic

/-!
Numbers written in a fixed width. As long as a number fits the width, its text has exactly that
width and texts stand in the order of the numbers, so that texts put together from several of them
are compared number by number.
-/

namespace FilterCompiler.Text

/-- Texts with fronts of one length are compared by their fronts first. -/
theorem append_lt_append_iff {as bs cs ds : List Char} (hlength : as.length = bs.length) :
    as ++ cs < bs ++ ds ↔ as < bs ∨ as = bs ∧ cs < ds := by
  induction as generalizing bs with
  | nil =>
      obtain rfl : bs = [] := List.length_eq_zero_iff.mp hlength.symm
      simp
  | cons a as ih =>
      cases bs with
      | nil => cases hlength
      | cons b bs =>
          have hrest : as.length = bs.length := Nat.succ.inj hlength
          simp only [List.cons_append, List.cons_lt_cons_iff, ih hrest, List.cons.injEq]
          tauto

/-- Digits stand in the order of their values; letters come after figures. -/
theorem digitChar_lt_digitChar_iff {a b : Nat} (ha : a < 16) (hb : b < 16) :
    Nat.digitChar a < Nat.digitChar b ↔ a < b := by
  have hdigits : ∀ a b : Fin 16, Nat.digitChar a < Nat.digitChar b ↔ a < b := by decide
  exact hdigits ⟨a, ha⟩ ⟨b, hb⟩

section Padded

variable {base width : Nat}

/-- The last digit is written after the others. -/
theorem padded_succ (hbase : 1 < base) (hwidth : 1 ≤ width) (n : Nat) :
    padded base (width + 1) n = padded base width (n / base) ++ [Nat.digitChar (n % base)] := by
  unfold padded
  rw [Nat.toDigits_eq_if hbase]
  split
  · rename_i hn
    obtain ⟨width, rfl⟩ := Nat.exists_eq_add_one.mpr hwidth
    rw [Nat.div_eq_of_lt hn, Nat.mod_eq_of_lt hn, Nat.toDigits_zero]
    simp [List.replicate_succ']
  · simp [Nat.add_sub_add_right]

theorem padded_length (hbase : 1 < base) (hwidth : 1 ≤ width) {n : Nat} (hn : n < base ^ width) :
    (padded base width n).length = width := by
  have hdigits : (Nat.toDigits base n).length ≤ width :=
    (Nat.length_toDigits_le_iff hbase hwidth).mpr hn
  simp only [padded, List.length_append, List.length_replicate]
  omega

/-- Numbers that fit the width are written in their order. The induction is on the width: of two
numbers, the smaller one is smaller without the last digit, or else in the last digit. -/
theorem padded_strictMonoOn (hbase : 1 < base) (hdigits : base ≤ 16) (hwidth : 1 ≤ width) :
    StrictMonoOn (padded base width) (Set.Iio (base ^ width)) := by
  induction width, hwidth using Nat.le_induction with
  | base =>
      intro a ha b hb hless
      rw [Set.mem_Iio, pow_one] at ha hb
      have hone {n : Nat} (hn : n < base) : padded base 1 n = [Nat.digitChar n] := by
        simp [padded, Nat.toDigits_of_lt_base hn]
      rw [hone ha, hone hb]
      exact List.cons_lt_cons_iff.mpr
        (.inl ((digitChar_lt_digitChar_iff (by omega) (by omega)).mpr hless))
  | succ width hwidth ih =>
      intro a ha b hb hless
      have hfront {n : Nat} (hn : n < base ^ (width + 1)) : n / base < base ^ width :=
        Nat.div_lt_of_lt_mul (by rwa [mul_comm, ← pow_succ])
      have hlength :
          (padded base width (a / base)).length = (padded base width (b / base)).length := by
        rw [padded_length hbase hwidth (hfront ha), padded_length hbase hwidth (hfront hb)]
      rw [padded_succ hbase hwidth, padded_succ hbase hwidth, append_lt_append_iff hlength]
      rcases (Nat.div_le_div_right hless.le : a / base ≤ b / base).lt_or_eq with hfirst | hfirst
      · exact .inl (ih (hfront ha) (hfront hb) hfirst)
      · refine .inr ⟨congrArg _ hfirst, ?_⟩
        have hlast (n : Nat) : n % base < 16 := (Nat.mod_lt n (by omega)).trans_le hdigits
        have hmod : a % base < b % base := by
          rw [← Nat.div_add_mod a base, ← Nat.div_add_mod b base, hfirst] at hless
          omega
        exact List.cons_lt_cons_iff.mpr
          (.inl ((digitChar_lt_digitChar_iff (hlast a) (hlast b)).mpr hmod))

theorem flatMap_padded_length (hbase : 1 < base) (hwidth : 1 ≤ width) {ns : List Nat}
    (hns : ∀ n ∈ ns, n < base ^ width) :
    (ns.flatMap (padded base width)).length = ns.length * width := by
  induction ns with
  | nil => simp
  | cons n ns ih =>
      obtain ⟨hn, hns⟩ := List.forall_mem_cons.mp hns
      rw [List.flatMap_cons, List.length_append, padded_length hbase hwidth hn, ih hns,
        List.length_cons, Nat.succ_mul, Nat.add_comm]

/-- Equally many numbers one after the other are compared number by number. -/
theorem flatMap_padded_strictMonoOn (hbase : 1 < base) (hdigits : base ≤ 16) (hwidth : 1 ≤ width)
    (count : Nat) :
    StrictMonoOn (fun ns : List Nat => ns.flatMap (padded base width))
      {ns | ns.length = count ∧ ∀ n ∈ ns, n < base ^ width} := by
  induction count with
  | zero =>
      rintro as ⟨has, -⟩ bs ⟨hbs, -⟩ hless
      rw [List.length_eq_zero_iff] at has hbs
      rw [has, hbs] at hless
      exact absurd hless (lt_irrefl _)
  | succ count ih =>
      rintro (_ | ⟨a, as⟩) ⟨haslength, hafit⟩ (_ | ⟨b, bs⟩) ⟨hbslength, hbfit⟩ hless
      · cases haslength
      · cases haslength
      · cases hbslength
      · obtain ⟨ha, has⟩ := List.forall_mem_cons.mp hafit
        obtain ⟨hb, hbs⟩ := List.forall_mem_cons.mp hbfit
        have hlength : (padded base width a).length = (padded base width b).length := by
          rw [padded_length hbase hwidth ha, padded_length hbase hwidth hb]
        simp only [List.flatMap_cons, append_lt_append_iff hlength]
        rcases List.cons_lt_cons_iff.mp hless with hfirst | ⟨rfl, hrest⟩
        · exact .inl (padded_strictMonoOn hbase hdigits hwidth ha hb hfirst)
        · exact .inr ⟨rfl, ih ⟨Nat.succ.inj haslength, has⟩ ⟨Nat.succ.inj hbslength, hbs⟩ hrest⟩

end Padded

/-- Decimals say which number they are, whatever width they were given. -/
theorem digitsValue_padded (width n : Nat) : digitsValue (padded 10 width n) = n := by
  change Nat.ofDigitChars 10 (padded 10 width n) 0 = n
  rw [padded, Nat.ofDigitChars_append, Nat.ofDigitChars_replicate_zero, Nat.mul_zero,
    Nat.ofDigitChars_ten_toDigits]

theorem padded_ten_injective (width : Nat) : Function.Injective (padded 10 width) :=
  Function.LeftInverse.injective (digitsValue_padded width)

theorem toString_injective : Function.Injective (fun n : Nat => toString n) := by
  intro a b h
  have hdigits : Nat.toDigits 10 a = Nat.toDigits 10 b := by
    simpa [Nat.toString_eq_repr] using congrArg String.toList h
  have hwithout (n : Nat) : padded 10 0 n = Nat.toDigits 10 n := by simp [padded]
  exact padded_ten_injective 0 (by rw [hwithout, hwithout, hdigits])

theorem isDigit_of_mem_padded {width n : Nat} {c : Char} (hmember : c ∈ padded 10 width n) :
    c.isDigit = true := by
  rcases List.mem_append.mp hmember with hzero | hdigit
  · rw [List.eq_of_mem_replicate hzero]
    rfl
  · exact Nat.isDigit_of_mem_toDigits (by decide) (by decide) hdigit

end FilterCompiler.Text
