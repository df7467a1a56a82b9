import MediaQuery.Proofs.Text.Parts
import MediaQuery.Text.Casing

/-!
# Case tables

The forms that the case tables give to a character beyond ASCII. A row maps by adding, so what it
maps to given code points is found from these code points: `MapsFrom` goes through the rows of a
table once, and `MapsFrom.mem_or` says of every character what then leads to them.
-/

namespace MediaQuery.Text

variable {rows : List (Nat × Nat × Nat × Int)} {sequences : List (Nat × List Nat)}
  {codes : List Nat} {p : Char → Bool} {n m : Nat} {c : Char}

/-! ### Rows -/

theorem toNat_of_ofNat_eq (h : Char.ofNat m = c) (hc : c.toNat ≠ 0) : m = c.toNat := by
  subst h
  by_cases hm : m.isValidChar
  · have hval : Char.ofNat m = Char.ofNatAux m hm := dif_pos hm
    rw [hval]
    rfl
  · have hval : Char.ofNat m = Char.ofNat 0 := dif_neg hm
    rw [hval] at hc
    exact absurd rfl hc

/-- A row maps by adding, so the image determines the code point; only zero is cut off. -/
theorem exists_row_of_caseImage (hm : m ≠ 0) (h : caseImage rows n = m) :
    n = m ∨ ∃ row ∈ rows, (row.1 ≤ n && n ≤ row.2.1 && (n - row.1) % row.2.2.1 == 0) = true ∧
      ((m : Int) - row.2.2.2).toNat = n := by
  unfold caseImage at h
  split at h
  · rename_i row hrow
    have hcovers := List.find?_some hrow
    exact .inr ⟨row, List.mem_of_find?_eq_some hrow, hcovers, by omega⟩
  · exact .inl h

/-- The rows map nothing to one of `codes` but characters of the class. -/
def MapsFrom (rows : List (Nat × Nat × Nat × Int)) (codes : List Nat) (p : Char → Bool) : Prop :=
  (rows.all fun row => codes.all fun m =>
    let n := ((m : Int) - row.2.2.2).toNat
    !(row.1 ≤ n && n ≤ row.2.1 && (n - row.1) % row.2.2.1 == 0) || p (Char.ofNat n)) = true

/-- What has an image among `codes` is one of them, or is in the class. -/
theorem MapsFrom.mem_or (hrows : MapsFrom rows codes p) (hzero : 0 ∉ codes)
    (h : (Char.ofNat (caseImage rows c.toNat)).toNat ∈ codes) : c.toNat ∈ codes ∨ p c := by
  have hne : (Char.ofNat (caseImage rows c.toNat)).toNat ≠ 0 := fun h0 => hzero (h0 ▸ h)
  have himage := toNat_of_ofNat_eq rfl hne
  rw [← himage] at hne h
  rcases exists_row_of_caseImage hne rfl with hself | ⟨row, hrow, hcovers, hn⟩
  · exact .inl (hself ▸ h)
  · have hcheck := List.all_eq_true.1 (List.all_eq_true.1 hrows row hrow) _ h
    simp only [hn, hcovers, Bool.not_true, Bool.false_or, Char.ofNat_toNat] at hcheck
    exact .inr hcheck

/-- The row leads to a code point up to a limit, or starts at zero. -/
def reaches (limit : Nat) (row : Nat × Nat × Nat × Int) : Bool :=
  Nat.ble ((row.1 : Int) + row.2.2.2).toNat limit || Nat.beq row.1 0

/-- Rows that only lead beyond `codes` need no check. -/
theorem MapsFrom.of_reaching (limit : Nat) (hcodes : ∀ m ∈ codes, m ≤ limit)
    (h : MapsFrom (rows.filter (reaches limit)) codes p) : MapsFrom rows codes p := by
  refine List.all_eq_true.2 fun row hrow => List.all_eq_true.2 fun m hm => ?_
  by_cases hreach : reaches limit row
  · exact List.all_eq_true.1 (List.all_eq_true.1 h row (List.mem_filter.2 ⟨hrow, hreach⟩)) m hm
  · have hlimit := hcodes m hm
    simp only [reaches, Bool.or_eq_true, Nat.ble_eq, Nat.beq_eq, not_or] at hreach
    have hbelow : ¬ row.1 ≤ ((m : Int) - row.2.2.2).toNat := by omega
    simp [hbelow]

/-! ### Forms -/

/-- The form of a code point under the sequences and the rows of a case table. -/
def caseForm (sequences : List (Nat × List Nat)) (rows : List (Nat × Nat × Nat × Int)) (n : Nat) :
    List Char :=
  match sequences.lookup n with
  | some ns => ns.map Char.ofNat
  | none => [Char.ofNat (caseImage rows n)]

/-- A form is a sequence of the table, or else a single character. -/
theorem caseForm_cases (sequences : List (Nat × List Nat)) (rows : List (Nat × Nat × Nat × Int))
    (n : Nat) : (∃ row ∈ sequences, row.1 = n ∧ caseForm sequences rows n = row.2.map Char.ofNat) ∨
      caseForm sequences rows n = [Char.ofNat (caseImage rows n)] := by
  unfold caseForm
  cases hlookup : sequences.lookup n with
  | none => exact .inr rfl
  | some ns =>
    obtain ⟨before, after, hsequences, -⟩ := List.lookup_eq_some_iff.1 hlookup
    exact .inl ⟨(n, ns), by simp [hsequences], rfl, rfl⟩

theorem lowerChar_eq_caseForm (hc : 128 ≤ c.toNat) :
    lowerChar c = caseForm lowerSequences lowerRows c.toNat := by
  have hcapital : ¬ ('A' ≤ c ∧ c ≤ 'Z') := by
    rintro ⟨-, hz⟩
    have hz' : c.toNat ≤ 90 := hz
    omega
  rw [lowerChar, if_neg (by simpa using hcapital), if_neg (by omega)]
  rfl

theorem upperChar_eq_caseForm (hc : 128 ≤ c.toNat) :
    upperChar c = caseForm upperSequences upperRows c.toNat := by
  have hsmall : ¬ ('a' ≤ c ∧ c ≤ 'z') := by
    rintro ⟨-, hz⟩
    have hz' : c.toNat ≤ 122 := hz
    omega
  rw [upperChar, if_neg (by simpa using hsmall), if_neg (by omega)]
  rfl

/-- A character that no row and no sequence is for is its own form. -/
theorem caseForm_eq_self (hrows : ∀ row ∈ rows, c.toNat < row.1 ∨ row.2.1 < c.toNat)
    (hsequences : ∀ row ∈ sequences, row.1 ≠ c.toNat) : caseForm sequences rows c.toNat = [c] := by
  have himage : caseImage rows c.toNat = c.toNat := by
    have hnone : (rows.find? fun row => row.1 ≤ c.toNat && c.toNat ≤ row.2.1 &&
        (c.toNat - row.1) % row.2.2.1 == 0) = none := by
      refine List.find?_eq_none.2 fun row hrow hcovers => ?_
      simp only [Bool.and_eq_true, decide_eq_true_eq] at hcovers
      have := hrows row hrow
      omega
    rw [caseImage, hnone]
  rcases caseForm_cases sequences rows c.toNat with ⟨row, hrow, hn, -⟩ | hform
  · exact absurd hn (hsequences row hrow)
  · rw [hform, himage, Char.ofNat_toNat]

end MediaQuery.Text
