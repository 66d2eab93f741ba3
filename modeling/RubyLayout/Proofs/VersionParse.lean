import Mathlib
import RubyLayout.Version
import RubyLayout.Value.Word

/-!
# Reading a version

`Version.parse` trims the blank characters around a text and cuts it before its first `-` or
`+`. It accepts exactly the texts whose rest splits at its dots into two or three numerals,
non-empty runs of ASCII digits whose value a machine integer holds (`IsNumeral`). The version is
then the first two numbers; every other text is refused with the rest quoted.

A version's own written form reads back as the version whenever its numbers are non-negative
machine integers, and so does that form followed by a patch level and by a pre-release or build
suffix. The form has no blank at either end, so trimming keeps it, and the cut drops exactly the
suffix; its parts are the decimal digits of the numbers (`Nat.ofDigitChars_ten_toDigits`).

Main statement: `parse_accepts_exactly`.
-/

set_option autoImplicit false
set_option relaxedAutoImplicit false

namespace RubyLayout

namespace Version

/-- A numeral: a non-empty run of ASCII digits whose value a machine integer holds. -/
def IsNumeral (cs : List Char) : Prop :=
  cs ≠ [] ∧ (∀ c ∈ cs, c.isDigit = true) ∧ Nat.ofDigitChars 10 cs 0 ≤ 2 ^ 63 - 1

instance (cs : List Char) : Decidable (IsNumeral cs) := by
  unfold IsNumeral
  infer_instance

/-! ### Numbers -/

theorem readNumber_eq (cs : List Char) :
    readNumber cs = if IsNumeral cs then some (Nat.ofDigitChars 10 cs 0) else none := by
  have hvalue : cs.foldl (fun acc c => acc * 10 + (c.toNat - 48)) 0 =
      Nat.ofDigitChars 10 cs 0 := by
    rw [Nat.ofDigitChars_eq_foldl]
    congr 1
    funext acc c
    rw [Nat.mul_comm]
    rfl
  have hlimit : numberLimit = 2 ^ 63 - 1 := rfl
  have hcond : (cs.isEmpty || !cs.all Char.isDigit) =
      !decide (cs ≠ [] ∧ ∀ c ∈ cs, c.isDigit = true) := by
    rw [List.all_eq]
    cases cs with
    | nil => rfl
    | cons c cs => simp
  unfold readNumber
  rw [hcond]
  by_cases hshape : cs ≠ [] ∧ ∀ c ∈ cs, c.isDigit = true
  · have hkept : ¬ (!decide (cs ≠ [] ∧ ∀ c ∈ cs, c.isDigit = true)) = true := by
      simpa using hshape
    rw [if_neg hkept]
    simp only [hvalue, hlimit]
    by_cases hle : Nat.ofDigitChars 10 cs 0 ≤ 2 ^ 63 - 1
    · rw [if_pos hle, if_pos (show IsNumeral cs from ⟨hshape.1, hshape.2, hle⟩)]
    · rw [if_neg hle, if_neg (show ¬ IsNumeral cs from fun h ↦ hle h.2.2)]
  · have hrefused : (!decide (cs ≠ [] ∧ ∀ c ∈ cs, c.isDigit = true)) = true := by
      simpa only [Bool.not_eq_eq_eq_not, Bool.not_true, decide_eq_false_iff_not] using hshape
    rw [if_pos hrefused, if_neg (show ¬ IsNumeral cs from fun h ↦ hshape ⟨h.1, h.2.1⟩)]

/-! ### The grammar -/

/-- Every text is read as a version or refused with the text after trimming and cutting. -/
theorem parse_ok_or_invalid (s : String) :
    (∃ v, parse s = .ok v) ∨ parse s = .error (.invalid (cutSuffix (Text.trimBlank s))) := by
  unfold parse
  dsimp only
  split
  · exact .inl ⟨_, rfl⟩
  · exact .inl ⟨_, rfl⟩
  · exact .inr rfl

/-- A text is read as a version exactly when its parts are two or three numerals, and the
version is then the first two numbers. -/
theorem parse_eq_ok_iff (s : String) (v : Version) :
    parse s = .ok v ↔
      let parts := (cutSuffix (Text.trimBlank s)).toList.splitOn '.'
      (parts.length = 2 ∨ parts.length = 3) ∧ (∀ p ∈ parts, IsNumeral p) ∧
        v = ⟨Nat.ofDigitChars 10 (parts.getD 0 []) 0, Nat.ofDigitChars 10 (parts.getD 1 []) 0⟩ := by
  unfold parse
  dsimp only
  generalize (cutSuffix (Text.trimBlank s)).toList.splitOn '.' = parts
  rcases parts with _ | ⟨p, _ | ⟨q, _ | ⟨r, _ | ⟨x, rest⟩⟩⟩⟩
  · simp
  · simp
  · by_cases hp : IsNumeral p <;> by_cases hq : IsNumeral q <;>
      simp [readNumber_eq, hp, hq, @eq_comm Version]
  · by_cases hp : IsNumeral p <;> by_cases hq : IsNumeral q <;> by_cases hr : IsNumeral r <;>
      simp [readNumber_eq, hp, hq, hr, @eq_comm Version]
  · simp

/-! ### Trimming and cutting a written form -/

/-- A digit is neither blank, nor a sign, nor a dot. -/
theorem digit_plain {c : Char} (hc : c.isDigit = true) :
    Text.isBlank c = false ∧ c ≠ '-' ∧ c ≠ '+' ∧ c ≠ '.' := by
  have hn : 48 ≤ c.toNat ∧ c.toNat ≤ 57 := by
    simp only [Char.isDigit, Bool.and_eq_true, decide_eq_true_eq] at hc
    exact ⟨hc.1, hc.2⟩
  refine ⟨?_, ?_, ?_, ?_⟩
  · simp only [Text.isBlank, Bool.or_eq_false_iff, Bool.and_eq_false_iff, decide_eq_false_iff_not,
      beq_eq_false_iff_ne]
    omega
  all_goals
    rintro rfl
    revert hn
    decide

/-- Dropping blanks from a list without any drops nothing. -/
theorem dropBlank_of_plain {l : List Char} (hl : ∀ c ∈ l, Text.isBlank c = false) :
    Text.dropBlank l = l := by
  cases l with
  | nil => rfl
  | cons c l => exact List.dropWhile_cons_of_neg (by simp [hl c List.mem_cons_self])

/-- Trimming a text that starts with a run of characters that are not blank keeps that run,
and trims what follows it only at its end. -/
theorem toList_trimBlank_append {s : String} {a b : List Char} (hs : s.toList = a ++ b)
    (hne : a ≠ []) (ha : ∀ c ∈ a, Text.isBlank c = false) :
    (Text.trimBlank s).toList = a ++ (Text.dropBlank b.reverse).reverse := by
  obtain ⟨c, a', rfl⟩ := List.exists_cons_of_ne_nil hne
  have hfront : Text.dropBlank ((c :: a') ++ b) = (c :: a') ++ b :=
    List.dropWhile_cons_of_neg (by simp [ha c List.mem_cons_self])
  unfold Text.trimBlank
  rw [String.toList_ofList, hs, hfront, List.reverse_append]
  unfold Text.dropBlank
  rw [List.dropWhile_append]
  split
  · rename_i hempty
    have hrev : ∀ d ∈ (c :: a').reverse, Text.isBlank d = false :=
      fun d hd ↦ ha d (List.mem_reverse.mp hd)
    rw [List.isEmpty_iff.mp hempty]
    have hkeep := dropBlank_of_plain hrev
    unfold Text.dropBlank at hkeep
    rw [hkeep]
    simp
  · simp

/-- Trimming keeps a first character that is not blank at the front of what it trims. -/
theorem head?_trimEnd {b : List Char} (hb : ∀ c ∈ b.head?, Text.isBlank c = false) :
    (Text.dropBlank b.reverse).reverse.head? = b.head? := by
  cases b with
  | nil => rfl
  | cons e b =>
    have he : Text.isBlank e = false := hb e rfl
    have hpre : (Text.dropBlank (e :: b).reverse).reverse <+: e :: b := by
      have := List.reverse_prefix.mpr (List.dropWhile_suffix Text.isBlank (l := (e :: b).reverse))
      simpa [Text.dropBlank] using this
    have hne : Text.dropBlank (e :: b).reverse ≠ [] := by
      intro hnil
      have hall := List.dropWhile_eq_nil_iff.mp hnil e (by simp)
      rw [he] at hall
      exact Bool.false_ne_true hall
    obtain ⟨x, t, hxt⟩ := List.exists_cons_of_ne_nil (List.reverse_ne_nil_iff.mpr hne)
    rw [hxt] at hpre ⊢
    rw [(List.cons_prefix_cons.mp hpre).1]
    rfl

/-- Cutting a text that starts with a run without signs, followed by nothing or by a sign,
leaves the run. -/
theorem toList_cutSuffix_append {s : String} {a b : List Char} (hs : s.toList = a ++ b)
    (ha : ∀ c ∈ a, c ≠ '-' ∧ c ≠ '+') (hb : ∀ c ∈ b.head?, c = '-' ∨ c = '+') :
    (cutSuffix s).toList = a := by
  have hpos : ∀ c ∈ a, (c != '-' && c != '+') = true := by
    intro c hc
    simp [(ha c hc).1, (ha c hc).2]
  unfold cutSuffix
  rw [String.toList_ofList, hs, List.takeWhile_append_of_pos hpos]
  cases b with
  | nil => simp
  | cons e b =>
    have he : ¬ (e != '-' && e != '+') = true := by
      rcases hb e rfl with rfl | rfl <;> decide
    rw [List.takeWhile_cons_of_neg (p := fun c ↦ c != '-' && c != '+') he, List.append_nil]

/-! ### Written forms read back -/

/-- The decimal digits of a number that a machine integer holds are a numeral of that value. -/
theorem isNumeral_toDigits {n : Nat} (hn : n ≤ 2 ^ 63 - 1) : IsNumeral (Nat.toDigits 10 n) :=
  ⟨Nat.toDigits_ne_nil, fun _ hc ↦ Nat.isDigit_of_mem_toDigits (by decide) (by decide) hc,
    by rw [Nat.ofDigitChars_ten_toDigits]; exact hn⟩

/-- Numbers written in decimal and joined by dots are digits and dots. -/
theorem mem_intercalate_digits {c : Char} :
    ∀ {ns : List Nat}, c ∈ ['.'].intercalate (ns.map (Nat.toDigits 10)) →
      c.isDigit = true ∨ c = '.'
  | [], h => by simp at h
  | [n], h => by
    simp only [List.map_cons, List.map_nil, List.intercalate_singleton] at h
    exact .inl (Nat.isDigit_of_mem_toDigits (by decide) (by decide) h)
  | n :: n' :: ns, h => by
    simp only [List.map_cons, List.intercalate_cons_cons, List.mem_append, List.mem_singleton]
      at h
    rcases h with (h | h) | h
    · exact .inl (Nat.isDigit_of_mem_toDigits (by decide) (by decide) h)
    · exact .inr h
    · have hrest : c ∈ ['.'].intercalate ((n' :: ns).map (Nat.toDigits 10)) := by simpa using h
      exact mem_intercalate_digits hrest

theorem ofDigitChars_getD_digits {ns : List Nat} {i : Nat} (hi : i < ns.length) :
    Nat.ofDigitChars 10 ((ns.map (Nat.toDigits 10)).getD i []) 0 = ns.getD i 0 := by
  rw [List.getD_eq_getElem?_getD, List.getD_eq_getElem?_getD, List.getElem?_map,
    List.getElem?_eq_getElem hi, Option.map_some, Option.getD_some, Option.getD_some,
    Nat.ofDigitChars_ten_toDigits]

/-- Two or three numbers that machine integers hold, written in decimal and joined by dots, and
followed by nothing or by a suffix that starts with a sign, read as the version of the first
two. -/
theorem parse_digits {s : String} {ns : List Nat} (hlen : ns.length = 2 ∨ ns.length = 3)
    (hle : ∀ n ∈ ns, n ≤ 2 ^ 63 - 1) {b : List Char}
    (hs : s.toList = ['.'].intercalate (ns.map (Nat.toDigits 10)) ++ b)
    (hb : ∀ c ∈ b.head?, c = '-' ∨ c = '+') :
    parse s = .ok ⟨ns.getD 0 0, ns.getD 1 0⟩ := by
  have hdot : ∀ d ∈ ns.map (Nat.toDigits 10), '.' ∉ d := by
    intro d hd hmem
    obtain ⟨n, -, rfl⟩ := List.mem_map.mp hd
    exact (digit_plain (Nat.isDigit_of_mem_toDigits (by decide) (by decide) hmem)).2.2.2 rfl
  have hsplit := List.splitOn_intercalate '.' hdot
    (by rcases hlen with h | h <;> exact List.ne_nil_of_length_pos (by simp [h]))
  have hne : ['.'].intercalate (ns.map (Nat.toDigits 10)) ≠ [] := by
    intro hnil
    rw [hnil] at hsplit
    have hl := congrArg List.length hsplit
    simp only [List.splitOn_nil, List.length_singleton, List.length_map] at hl
    omega
  have hplain : ∀ c ∈ ['.'].intercalate (ns.map (Nat.toDigits 10)),
      Text.isBlank c = false ∧ c ≠ '-' ∧ c ≠ '+' := by
    intro c hc
    rcases mem_intercalate_digits hc with hd | rfl
    · exact ⟨(digit_plain hd).1, (digit_plain hd).2.1, (digit_plain hd).2.2.1⟩
    · decide
  have htrim := toList_trimBlank_append hs hne fun c hc ↦ (hplain c hc).1
  have hsign : ∀ c ∈ b.head?, Text.isBlank c = false := by
    intro c hc
    rcases hb c hc with rfl | rfl <;> decide
  have hcut := toList_cutSuffix_append htrim (fun c hc ↦ (hplain c hc).2)
    (by rw [head?_trimEnd hsign]; exact hb)
  rw [parse_eq_ok_iff]
  dsimp only
  rw [hcut, hsplit, List.length_map]
  refine ⟨hlen, fun d hd ↦ ?_, ?_⟩
  · obtain ⟨n, hn, rfl⟩ := List.mem_map.mp hd
    exact isNumeral_toDigits (hle n hn)
  · rw [ofDigitChars_getD_digits (by omega), ofDigitChars_getD_digits (by omega)]

/-- A non-negative integer is written with the decimal digits of its value. -/
theorem toList_repr_natCast (n : Nat) : (n : Int).repr.toList = Nat.toDigits 10 n := by
  rw [Int.repr_eq_if, if_pos (Int.natCast_nonneg n), Int.toNat_natCast, Nat.toList_repr]

/-- The written form of a version of non-negative machine integers reads back as the version,
alone or followed by a patch level and a suffix that starts with a sign. -/
theorem parse_text {v : Version} (h0 : 0 ≤ v.major) (hM : v.major ≤ longMax) (h1 : 0 ≤ v.minor)
    (hm : v.minor ≤ longMax) :
    parse v.text = .ok v ∧
      ∀ (k : Nat) (suffix : String), (k : Int) ≤ longMax →
        (∀ c ∈ suffix.toList.head?, c = '-' ∨ c = '+') →
        parse (v.text ++ "." ++ toString k ++ suffix) = .ok v := by
  obtain ⟨major, minor⟩ := v
  obtain ⟨M, rfl⟩ := Int.eq_ofNat_of_zero_le h0
  obtain ⟨m, rfl⟩ := Int.eq_ofNat_of_zero_le h1
  have hlong : longMax = 2 ^ 63 - 1 := rfl
  dsimp only at hM hm
  have hMle : M ≤ 2 ^ 63 - 1 := by omega
  have hmle : m ≤ 2 ^ 63 - 1 := by omega
  constructor
  · have hs : (text ⟨M, m⟩).toList = ['.'].intercalate ([M, m].map (Nat.toDigits 10)) ++ [] := by
      simp [text, toList_repr_natCast]
    have hle : ∀ n ∈ [M, m], n ≤ 2 ^ 63 - 1 := by
      intro n hn
      simp only [List.mem_cons, List.not_mem_nil, or_false] at hn
      omega
    rw [parse_digits (Or.inl rfl) hle hs (by simp)]
    rfl
  · intro k suffix hk hsuffix
    have hkle : k ≤ 2 ^ 63 - 1 := by omega
    have hs : (text ⟨M, m⟩ ++ "." ++ toString k ++ suffix).toList =
        ['.'].intercalate ([M, m, k].map (Nat.toDigits 10)) ++ suffix.toList := by
      simp [text, toList_repr_natCast, Nat.toList_repr]
    have hle : ∀ n ∈ [M, m, k], n ≤ 2 ^ 63 - 1 := by
      intro n hn
      simp only [List.mem_cons, List.not_mem_nil, or_false] at hn
      omega
    rw [parse_digits (Or.inr rfl) hle hs hsuffix]
    rfl

end Version

open Version in
/-- A text is read as a version exactly when, trimmed of blanks and cut before its first `-` or
`+`, it splits at its dots into two or three numerals, and the version is then the first two
numbers; every other text is refused with the trimmed and cut text quoted in the message. The
written form of a version of non-negative machine integers reads back as the version, and so
does that form followed by a patch level and a suffix that starts with `-` or `+`. -/
theorem parse_accepts_exactly :
    (∀ s : String,
      (∀ v, parse s = .ok v ↔
        let parts := (cutSuffix (Text.trimBlank s)).toList.splitOn '.'
        (parts.length = 2 ∨ parts.length = 3) ∧ (∀ p ∈ parts, IsNumeral p) ∧
          v = ⟨Nat.ofDigitChars 10 (parts.getD 0 []) 0, Nat.ofDigitChars 10 (parts.getD 1 []) 0⟩) ∧
      ((∀ v, parse s ≠ .ok v) →
        parse s = .error (.invalid (cutSuffix (Text.trimBlank s))) ∧
          (ParseError.invalid (cutSuffix (Text.trimBlank s))).message =
            "invalid ruby version " ++ Text.quote (cutSuffix (Text.trimBlank s)))) ∧
    ∀ v : Version, 0 ≤ v.major → v.major ≤ longMax → 0 ≤ v.minor → v.minor ≤ longMax →
      parse v.text = .ok v ∧
      ∀ (k : Nat) (suffix : String), (k : Int) ≤ longMax →
        (∀ c ∈ suffix.toList.head?, c = '-' ∨ c = '+') →
        parse (v.text ++ "." ++ toString k ++ suffix) = .ok v := by
  refine ⟨fun s ↦ ⟨parse_eq_ok_iff s, fun hnot ↦ ⟨?_, rfl⟩⟩,
    fun v h0 hM h1 hm ↦ parse_text h0 hM h1 hm⟩
  rcases parse_ok_or_invalid s with ⟨v, hv⟩ | hinv
  · exact absurd hv (hnot v)
  · exact hinv

/-- `3.4.2-rc1` reads as 3.4. -/
theorem parse_accepts_exactly_patched :
    (0 : Int) ≤ 3 ∧ (3 : Int) ≤ longMax ∧ (0 : Int) ≤ 4 ∧ (4 : Int) ≤ longMax ∧
      ((2 : Nat) : Int) ≤ longMax ∧
      Version.parse (Version.text ⟨3, 4⟩ ++ "." ++ toString 2 ++ "-rc1") = .ok ⟨3, 4⟩ :=
  ⟨by decide, by decide, by decide, by decide, by decide,
    (parse_accepts_exactly.2 ⟨3, 4⟩ (by decide) (by decide) (by decide) (by decide)).2 2 "-rc1"
      (by decide) (by simp)⟩

end RubyLayout
