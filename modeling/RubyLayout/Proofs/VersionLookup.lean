import Mathlib
import RubyLayout.Api.Basic

/-!
# Finding the layout of a version

Versions are ordered lexicographically, which is a strict total order on all pairs of integers,
and the releases are listed in increasing order. `Release.lookup` finds a release exactly for
the versions of the releases, and the release it finds has that version, as do its facts. Every
other version is refused as unsupported, and the message says why: it predates the oldest layout
exactly when the version is older than 2.7, it is newer than the latest layout exactly when the
version is newer than 4.0, and a version between two releases gets neither phrase. The layouts the
messages name are the first and the last release listed; since the list is in increasing order,
they are the oldest and the newest (`oldest_le`, `le_newest`), and a refusal predates or is newer
exactly for a version older or newer than every release (`lookup_predates_newer_iff`).

The phrases are told apart by the one comma each message ends with. A version's written form is
digits, minus signs and a dot, so the comma of a message is the comma of its phrase
(`not_infix_of_comma`), and what follows the comma names the layout, 2.7 or 4.0.

Main statement: `version_dispatch_exact`.
-/

set_option autoImplicit false
set_option relaxedAutoImplicit false

namespace RubyLayout

/-! ### The order -/

namespace Version

theorem lt_asymm {a b : Version} (h : a.lt b) : ¬ b.lt a := by
  simp only [lt] at *
  omega

/-- Of two different versions exactly one is older. -/
theorem lt_xor_gt_of_ne {a b : Version} (hne : a ≠ b) :
    (a.lt b ∨ b.lt a) ∧ ¬ (a.lt b ∧ b.lt a) := by
  refine ⟨?_, fun h ↦ lt_asymm h.1 h.2⟩
  rcases lt_or_eq_or_gt a b with h | h | h
  · exact .inl h
  · exact absurd h hne
  · exact .inr h

/-! ### The written form -/

/-- A decimal integer is written with digits and a minus sign. -/
theorem digit_or_minus_of_mem_toString {i : Int} {c : Char} (hc : c ∈ (toString i).toList) :
    c.isDigit = true ∨ c = '-' := by
  have hdigit {n : Nat} (h : c ∈ n.repr.toList) : c.isDigit = true := by
    rw [Nat.toList_repr] at h
    exact Nat.isDigit_of_mem_toDigits (by decide) (by decide) h
  rw [Int.toString_eq_repr, Int.repr_eq_if] at hc
  split at hc
  · exact .inl (hdigit hc)
  · rw [String.toList_append, List.mem_append] at hc
    rcases hc with hc | hc
    · exact .inr (by simpa using hc)
    · exact .inl (hdigit hc)

/-- No comma is part of a version's written form. -/
theorem comma_not_mem_text (v : Version) : ',' ∉ v.text.toList := by
  intro hc
  simp only [text, String.toList_append, List.mem_append] at hc
  rcases hc with (hc | hc) | hc
  · rcases digit_or_minus_of_mem_toString hc with h | h <;> revert h <;> decide
  · revert hc
    decide
  · rcases digit_or_minus_of_mem_toString hc with h | h <;> revert h <;> decide

end Version

/-! ### Phrases told apart by their comma -/

/-- Past a prefix without commas, dropping everything up to the first comma leaves that comma
and what follows it. -/
theorem dropWhile_ne_comma {l r : List Char} (hl : ',' ∉ l) :
    (l ++ ',' :: r).dropWhile (· != ',') = ',' :: r := by
  have hpos : ∀ c ∈ l, (c != ',') = true := by
    intro c hc
    rw [bne_iff_ne]
    rintro rfl
    exact hl hc
  rw [List.dropWhile_append_of_pos hpos]
  simp

/-- A phrase with one comma does not occur in a text with one comma when what follows the
phrase's comma does not start the text after the text's comma. -/
theorem not_infix_of_comma (A R C D : List Char) {P M : List Char} (hP : P = A ++ ',' :: R)
    (hM : M = C ++ ',' :: D) (hA : ',' ∉ A) (hC : ',' ∉ C) (hD : ',' ∉ D) (hR : ¬ R <+: D) :
    ¬ P <:+: M := by
  rintro ⟨x, y, hxy⟩
  rw [hP, hM] at hxy
  have hx : ',' ∉ x := by
    have hcount := congrArg (List.count ',') hxy
    simp only [List.count_append, List.count_cons_self, List.count_eq_zero_of_not_mem hA,
      List.count_eq_zero_of_not_mem hC, List.count_eq_zero_of_not_mem hD] at hcount
    exact List.count_eq_zero.mp (by omega)
  have hsplit : (x ++ A) ++ ',' :: (R ++ y) = C ++ ',' :: D := by simpa using hxy
  have hxA : ',' ∉ x ++ A := by simp [hx, hA]
  have hD' := congrArg (List.dropWhile (· != ',')) hsplit
  rw [dropWhile_ne_comma hxA, dropWhile_ne_comma hC, List.cons.injEq] at hD'
  exact hR ⟨y, hD'.2⟩

/-- A phrase with a comma does not occur in a text without one. -/
theorem not_infix_of_comma_not_mem {P M : List Char} (hP : ',' ∈ P) (hM : ',' ∉ M) :
    ¬ P <:+: M :=
  fun h ↦ hM (h.subset hP)

namespace Release

/-! ### Finding a release -/

theorem mem_all (r : Release) : r ∈ all := by
  cases r <;> decide

theorem ofVersion?_eq_some_iff (v : Version) (r : Release) :
    ofVersion? v = some r ↔ r.version = v := by
  constructor
  · intro h
    unfold ofVersion? at h
    have hfound := List.find?_some h
    exact beq_iff_eq.mp hfound
  · rintro rfl
    exact ofVersion?_version r

theorem lookup_eq_ok_iff (v : Version) (r : Release) : lookup v = .ok r ↔ r.version = v := by
  rw [← ofVersion?_eq_some_iff]
  unfold lookup
  cases ofVersion? v with
  | some r' => simp
  | none =>
    simp only [reduceCtorEq, iff_false]
    split_ifs <;> simp

/-! ### The oldest and the newest release -/

theorem oldest_version : oldest.version = ⟨2, 7⟩ := rfl

theorem newest_version : newest.version = ⟨4, 0⟩ := rfl

/-- The first release is the oldest: the releases are listed in increasing order. -/
theorem oldest_le (r : Release) : r = oldest ∨ oldest.version.lt r.version := by
  have hsorted := versions_sorted
  have hall : all = oldest :: all.tail := rfl
  rw [hall, List.map_cons, List.pairwise_cons] at hsorted
  rcases List.mem_cons.mp (hall ▸ mem_all r) with h | h
  · exact .inl h
  · exact .inr (hsorted.1 _ (List.mem_map_of_mem h))

/-- The last release is the newest. -/
theorem le_newest (r : Release) : r = newest ∨ r.version.lt newest.version := by
  have hsorted := versions_sorted
  have hall : all = all.dropLast ++ [newest] := rfl
  rw [hall, List.map_append, List.pairwise_append] at hsorted
  rcases List.mem_append.mp (hall ▸ mem_all r) with h | h
  · exact .inr (hsorted.2.2 _ (List.mem_map_of_mem h) _ (List.mem_singleton.mpr rfl))
  · exact .inl (List.mem_singleton.mp h)

theorem lt_oldest_iff {v : Version} : v.lt oldest.version ↔ ∀ r : Release, v.lt r.version :=
  ⟨fun h r ↦ (oldest_le r).elim (fun hr ↦ hr ▸ h) (Version.lt_trans h), fun h ↦ h oldest⟩

theorem newest_lt_iff {v : Version} : newest.version.lt v ↔ ∀ r : Release, r.version.lt v :=
  ⟨fun h r ↦ (le_newest r).elim (fun hr ↦ hr ▸ h) (fun hr ↦ Version.lt_trans hr h),
    fun h ↦ h newest⟩

/-- A version no release has is found by none. -/
theorem ofVersion?_eq_none {v : Version} (hv : ∀ r : Release, r.version ≠ v) :
    ofVersion? v = none := by
  cases h : ofVersion? v with
  | none => rfl
  | some r => exact absurd ((ofVersion?_eq_some_iff v r).mp h) (hv r)

/-- A version no release has is refused, older than the oldest, newer than the newest, or
between two releases. -/
theorem lookup_of_unsupported {v : Version} (hv : ∀ r : Release, r.version ≠ v) :
    lookup v = .error (if v.lt ⟨2, 7⟩ then .predates v
      else if Version.lt ⟨4, 0⟩ v then .newer v else .between v) := by
  unfold lookup
  rw [ofVersion?_eq_none hv, oldest_version, newest_version]
  dsimp only
  split_ifs <;> rfl

/-- A version no release has is refused as predating the oldest layout exactly when it is older
than every release, and as newer than the latest exactly when it is newer than every release. -/
theorem lookup_predates_newer_iff {v : Version} (hv : ∀ r : Release, r.version ≠ v) :
    (lookup v = .error (.predates v) ↔ ∀ r : Release, v.lt r.version) ∧
    (lookup v = .error (.newer v) ↔ ∀ r : Release, r.version.lt v) := by
  have hspan : oldest.version.lt newest.version := by decide
  unfold lookup
  rw [ofVersion?_eq_none hv, ← lt_oldest_iff, ← newest_lt_iff]
  dsimp only
  by_cases hold : v.lt oldest.version
  · have hnew : ¬ newest.version.lt v :=
      fun h ↦ Version.lt_irrefl v (Version.lt_trans hold (Version.lt_trans hspan h))
    simp [hold, hnew]
  · by_cases hnew : newest.version.lt v <;> simp [hold, hnew]

/-! ### What the refusal says -/

namespace Unsupported

theorem message_predates (v : Version) : (predates v).message =
    "unsupported ruby version: " ++ v.text ++ " predates the oldest layout, 2.7" := by
  unfold message
  rw [oldest_version]
  rfl

theorem message_newer (v : Version) : (newer v).message =
    "unsupported ruby version: " ++ v.text ++ " is newer than the latest layout, 4.0" := by
  unfold message
  rw [newest_version]
  rfl

theorem message_between (v : Version) : (between v).message =
    "unsupported ruby version: " ++ v.text := rfl

/-- Every refusal starts with the same prefix. -/
theorem message_opening (u : Unsupported) :
    ∃ rest, u.message = "unsupported ruby version: " ++ rest := by
  cases u with
  | predates v =>
    exact ⟨v.text ++ " predates the oldest layout, 2.7",
      by rw [message_predates, String.append_assoc]⟩
  | newer v =>
    exact ⟨v.text ++ " is newer than the latest layout, 4.0",
      by rw [message_newer, String.append_assoc]⟩
  | between v => exact ⟨v.text, message_between v⟩

/-- The prefix of a refusal of `v`, up to the version, has no comma. -/
theorem comma_not_mem_lead (v : Version) :
    ',' ∉ ("unsupported ruby version: " ++ v.text).toList := by
  rw [String.toList_append, List.mem_append, not_or]
  exact ⟨by simp, Version.comma_not_mem_text v⟩

/-- A refusal of a version older than the oldest ends with its phrase, after one comma. -/
theorem toList_message_predates (v : Version) : (predates v).message.toList =
    (("unsupported ruby version: " ++ v.text).toList ++ " predates the oldest layout".toList) ++
      ',' :: " 2.7".toList := by
  have htail : " predates the oldest layout, 2.7".toList =
      " predates the oldest layout".toList ++ ',' :: " 2.7".toList := by simp
  rw [message_predates, String.toList_append (t := " predates the oldest layout, 2.7"), htail,
    List.append_assoc]

/-- A refusal of a version newer than the newest ends with its phrase, after one comma. -/
theorem toList_message_newer (v : Version) : (newer v).message.toList =
    (("unsupported ruby version: " ++ v.text).toList ++
      " is newer than the latest layout".toList) ++ ',' :: " 4.0".toList := by
  have htail : " is newer than the latest layout, 4.0".toList =
      " is newer than the latest layout".toList ++ ',' :: " 4.0".toList := by simp
  rw [message_newer, String.toList_append (t := " is newer than the latest layout, 4.0"), htail,
    List.append_assoc]

/-- The part of a message before its comma has none. -/
theorem comma_not_mem_head (v : Version) (phrase : String) (hp : ',' ∉ phrase.toList) :
    ',' ∉ ("unsupported ruby version: " ++ v.text).toList ++ phrase.toList := by
  rw [List.mem_append, not_or]
  exact ⟨comma_not_mem_lead v, hp⟩

/-- The message of a refusal says that the version predates the oldest layout exactly for a
version older than the oldest. -/
theorem predates_infix_iff (u : Unsupported) :
    "predates the oldest layout, 2.7".toList <:+: u.message.toList ↔ ∃ v, u = .predates v := by
  have hphrase : "predates the oldest layout, 2.7".toList =
      "predates the oldest layout".toList ++ ',' :: " 2.7".toList := by simp
  cases u with
  | predates v =>
    refine ⟨fun _ ↦ ⟨v, rfl⟩, fun _ ↦ ?_⟩
    have htail : " predates the oldest layout, 2.7".toList =
        [' '] ++ "predates the oldest layout, 2.7".toList := by simp
    rw [message_predates, String.toList_append (t := " predates the oldest layout, 2.7"), htail,
      ← List.append_assoc]
    exact List.IsSuffix.isInfix (List.suffix_append _ _)
  | newer v =>
    simp only [reduceCtorEq, exists_false, iff_false]
    exact not_infix_of_comma _ _ _ _ hphrase (toList_message_newer v) (by simp)
      (comma_not_mem_head v _ (by simp)) (by simp) (by simp)
  | between v =>
    simp only [reduceCtorEq, exists_false, iff_false]
    rw [message_between]
    exact not_infix_of_comma_not_mem (by simp) (comma_not_mem_lead v)

/-- The message of a refusal says that the version is newer than the latest layout exactly for
a version newer than the newest. -/
theorem newer_infix_iff (u : Unsupported) :
    "is newer than the latest layout, 4.0".toList <:+: u.message.toList ↔
      ∃ v, u = .newer v := by
  have hphrase : "is newer than the latest layout, 4.0".toList =
      "is newer than the latest layout".toList ++ ',' :: " 4.0".toList := by simp
  cases u with
  | predates v =>
    simp only [reduceCtorEq, exists_false, iff_false]
    exact not_infix_of_comma _ _ _ _ hphrase (toList_message_predates v) (by simp)
      (comma_not_mem_head v _ (by simp)) (by simp) (by simp)
  | newer v =>
    refine ⟨fun _ ↦ ⟨v, rfl⟩, fun _ ↦ ?_⟩
    have htail : " is newer than the latest layout, 4.0".toList =
        [' '] ++ "is newer than the latest layout, 4.0".toList := by simp
    rw [message_newer, String.toList_append (t := " is newer than the latest layout, 4.0"), htail,
      ← List.append_assoc]
    exact List.IsSuffix.isInfix (List.suffix_append _ _)
  | between v =>
    simp only [reduceCtorEq, exists_false, iff_false]
    rw [message_between]
    exact not_infix_of_comma_not_mem (by simp) (comma_not_mem_lead v)

end Unsupported

end Release

/-- Versions are ordered lexicographically, a strict total order, and the releases are listed in
increasing order. A version is found exactly when it is the version of a release, and the
accessors found report that version, as do their facts. Every other version is refused as
unsupported, and the refusal says that the version predates the oldest layout exactly when it is
older than 2.7, and that it is newer than the latest layout exactly when it is newer than 4.0. -/
theorem version_dispatch_exact :
    (∀ a : Version, ¬ a.lt a) ∧
    (∀ a b c : Version, a.lt b → b.lt c → a.lt c) ∧
    (∀ a b : Version, a ≠ b → (a.lt b ∨ b.lt a) ∧ ¬ (a.lt b ∧ b.lt a)) ∧
    (Release.all.map Release.version).Pairwise Version.lt ∧
    ∀ v : Version,
      ((∃ r, Release.lookup v = .ok r) ↔ v ∈ Release.all.map Release.version) ∧
      (∀ r debug tier, Release.lookup v = .ok r →
        (Api.ofRelease r debug tier).version = v ∧
          (Api.ofRelease r debug tier).reported.version = v) ∧
      (v ∉ Release.all.map Release.version → ∃ u, Release.lookup v = .error u ∧
        (∃ rest, u.message = "unsupported ruby version: " ++ rest) ∧
        ("predates the oldest layout, 2.7".toList <:+: u.message.toList ↔ v.lt ⟨2, 7⟩) ∧
        ("is newer than the latest layout, 4.0".toList <:+: u.message.toList ↔
          Version.lt ⟨4, 0⟩ v)) := by
  refine ⟨Version.lt_irrefl, fun _ _ _ ↦ Version.lt_trans, fun _ _ ↦ Version.lt_xor_gt_of_ne,
    Release.versions_sorted, fun v ↦ ⟨?_, ?_, ?_⟩⟩
  · rw [List.mem_map]
    constructor
    · rintro ⟨r, hr⟩
      exact ⟨r, Release.mem_all r, (Release.lookup_eq_ok_iff v r).mp hr⟩
    · rintro ⟨r, -, hr⟩
      exact ⟨r, (Release.lookup_eq_ok_iff v r).mpr hr⟩
  · intro r debug tier hr
    have hv := (Release.lookup_eq_ok_iff v r).mp hr
    exact ⟨hv, (Release.facts_version r).trans hv⟩
  · intro hv
    have hnone : ∀ r : Release, r.version ≠ v :=
      fun r hr ↦ hv (List.mem_map.mpr ⟨r, Release.mem_all r, hr⟩)
    refine ⟨_, Release.lookup_of_unsupported hnone, Release.Unsupported.message_opening _, ?_,
      ?_⟩
    · rw [Release.Unsupported.predates_infix_iff]
      split_ifs with h1 h2 <;> simp [h1]
    · rw [Release.Unsupported.newer_infix_iff]
      split_ifs with h1 h2
      · simp only [exists_false, false_iff]
        exact fun h4 ↦ absurd (Version.lt_trans h4 h1) (by decide)
      · simp [h2]
      · simp [h2]

/-- 3.5 lies between two releases. -/
example : Release.lookup ⟨3, 5⟩ = .error (.between ⟨3, 5⟩) := rfl

end RubyLayout
