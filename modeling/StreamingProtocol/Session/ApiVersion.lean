import StreamingProtocol.Session.StreamMeta
import Mathlib.Data.Prod.Lex

/-!
# The version of the protocol

A producer sends the version of the protocol, three decimal numbers that dots separate, and a
consumer is to accept the versions from 0.6.0 on. The parts between the dots are converted to
numbers by the standard library, which skips blanks before a number, takes a sign and ignores what
follows the digits; a part without digits throws an exception that is not caught. The numbers are
then cut to 32 bits.

So three kinds of texts are misjudged: those with a part that has no number of 64 bits, three parts
that are not all decimal and whose numbers are not those of an old version, and recent versions
whose first two numbers become those of an old version when they are cut. All others are judged
rightly.

## Main definitions

* `StreamMeta.returned?`: what the function returns.
* `StreamMeta.RecentVersion`: the versions that are to be accepted.
* `StreamMeta.JudgesVersion`, `StreamMeta.PlainVersion`.

## Main results

* `StreamMeta.judgesVersion_iff`.
-/

namespace StreamingProtocol

open NumberText

namespace StreamMeta

/-! ### What is expected -/

/-- The value that the function returns, if it does; falling through is the return of 0. -/
def returned? (c : Completion StreamMeta) : Option Int :=
  match c.why? with
  | none => some 0
  | some (.ret code) => some code
  | some _ => none

/-- Three decimal numbers that dots separate, of a version from 0.6.0 on. -/
def RecentVersion (apiVersion : String) : Prop :=
  ∃ major minor patch : List Char, IsDecimal major ∧ IsDecimal minor ∧ IsDecimal patch ∧
    apiVersion.toList = major ++ '.' :: (minor ++ '.' :: patch) ∧
    toLex (0, toLex (6, 0)) ≤
      toLex (decimalValue major, toLex (decimalValue minor, decimalValue patch))

/-- Recent versions are accepted and all other texts rejected. -/
def JudgesVersion (apiVersion : String) (c : Completion StreamMeta) : Prop :=
  (RecentVersion apiVersion → returned? c = some 0) ∧
    (¬ RecentVersion apiVersion → returned? c = some (-1))

section Judgement

variable {apiVersion : String} {c : Completion StreamMeta}

theorem judgesVersion_of_accepted (h : returned? c = some 0) :
    JudgesVersion apiVersion c ↔ RecentVersion apiVersion := by
  constructor
  · intro hjudges
    by_contra hrecent
    cases h.symm.trans (hjudges.2 hrecent)
  · exact fun hrecent => ⟨fun _ => h, fun hold => absurd hrecent hold⟩

theorem judgesVersion_of_rejected (h : returned? c = some (-1)) :
    JudgesVersion apiVersion c ↔ ¬ RecentVersion apiVersion := by
  constructor
  · intro hjudges hrecent
    cases h.symm.trans (hjudges.1 hrecent)
  · exact fun hold => ⟨fun hrecent => absurd hrecent hold, fun _ => h⟩

/-- An exception is neither of the two values. -/
theorem not_judgesVersion_of_throws (h : returned? c = none) :
    ¬ JudgesVersion apiVersion c := by
  rintro ⟨haccepted, hrejected⟩
  by_cases hrecent : RecentVersion apiVersion
  · cases h.symm.trans (haccepted hrecent)
  · cases h.symm.trans (hrejected hrecent)

end Judgement

theorem le_version_iff (major minor patch : ℕ) :
    toLex (0, toLex (6, 0)) ≤ toLex (major, toLex (minor, patch)) ↔ 1 ≤ major ∨ 6 ≤ minor := by
  simp only [Prod.Lex.toLex_le_toLex]
  omega

/-! ### What is done with the parts -/

/-- The parts of a version. -/
def versionParts (apiVersion : String) : List (List Char) := apiVersion.toList.splitOn '.'

/-- A part begins with a number of 64 bits. -/
def HasNumber (part : List Char) : Prop :=
  (signAndDigits part).2 ≠ [] ∧ decimalValue (signAndDigits part).2 < 2 ^ 64

instance : DecidablePred HasNumber := fun part =>
  inferInstanceAs (Decidable ((signAndDigits part).2 ≠ [] ∧
    decimalValue (signAndDigits part).2 < 2 ^ 64))

/-- The numbers at the beginning of the parts, cut to 32 bits, are those of an old version. -/
def LooksOld (major minor : List Char) : Prop :=
  leadingNumber major % 2 ^ 32 = 0 ∧ leadingNumber minor % 2 ^ 32 < 6

/-- All parts are decimal. -/
def AllDecimal (major minor patch : List Char) : Prop :=
  IsDecimal major ∧ IsDecimal minor ∧ IsDecimal patch

/-- The version is before 0.6.0. -/
def IsOld (major minor : List Char) : Prop := decimalValue major = 0 ∧ decimalValue minor < 6

/-- All parts begin with numbers, three parts that are not all decimal look like an old version, and
three decimal parts only do if they are one. -/
def PlainVersion (apiVersion : String) : Prop :=
  (∀ part ∈ versionParts apiVersion, HasNumber part) ∧
    ∀ major minor patch, versionParts apiVersion = [major, minor, patch] →
      (¬ AllDecimal major minor patch → LooksOld major minor) ∧
        (AllDecimal major minor patch → LooksOld major minor → IsOld major minor)

/-- Decimal parts of an old version look like one. -/
theorem looksOld_of_isOld {major minor patch : List Char} (hdecimal : AllDecimal major minor patch)
    (hold : IsOld major minor) : LooksOld major minor := by
  obtain ⟨hmajor, hminor, -⟩ := hdecimal
  obtain ⟨hmajorValue, hminorValue⟩ := hold
  rw [LooksOld, leadingNumber_of_isDecimal hmajor, leadingNumber_of_isDecimal hminor]
  omega

/-- A version is recent if its parts say so. -/
theorem recentVersion_iff (apiVersion : String) :
    RecentVersion apiVersion ↔ ∃ major minor patch,
      versionParts apiVersion = [major, minor, patch] ∧
        AllDecimal major minor patch ∧ ¬ IsOld major minor := by
  have hparts {major minor patch : List Char} (hmajor : IsDecimal major)
      (hminor : IsDecimal minor) (hpatch : IsDecimal patch) :
      versionParts apiVersion = [major, minor, patch] ↔
        apiVersion.toList = major ++ '.' :: (minor ++ '.' :: patch) := by
    have hdot : ∀ part ∈ [major, minor, patch], '.' ∉ part := by
      have hnot {part : List Char} (h : IsDecimal part) : '.' ∉ part := h.notMem rfl
      simp [hnot hmajor, hnot hminor, hnot hpatch]
    rw [versionParts, List.splitOn_eq_iff (List.cons_ne_nil _ _) hdot]
    simp [List.intercalate]
  unfold RecentVersion AllDecimal IsOld
  simp only [le_version_iff]
  constructor
  · rintro ⟨major, minor, patch, hmajor, hminor, hpatch, htext, hle⟩
    exact ⟨major, minor, patch, (hparts hmajor hminor hpatch).mpr htext,
      ⟨hmajor, hminor, hpatch⟩, by omega⟩
  · rintro ⟨major, minor, patch, hsplit, ⟨hmajor, hminor, hpatch⟩, hrecent⟩
    exact ⟨major, minor, patch, hmajor, hminor, hpatch,
      (hparts hmajor hminor hpatch).mp hsplit, by omega⟩

section ThreeParts

variable {apiVersion : String} {major minor patch : List Char}

theorem recentVersion_of_three (hparts : versionParts apiVersion = [major, minor, patch]) :
    RecentVersion apiVersion ↔ AllDecimal major minor patch ∧ ¬ IsOld major minor := by
  rw [recentVersion_iff, hparts]
  constructor
  · rintro ⟨a, b, c, heq, h⟩
    cases heq
    exact h
  · exact fun h => ⟨major, minor, patch, rfl, h⟩

theorem plainVersion_of_three (hparts : versionParts apiVersion = [major, minor, patch])
    (hnumbers : ∀ part ∈ versionParts apiVersion, HasNumber part) :
    PlainVersion apiVersion ↔ (¬ AllDecimal major minor patch → LooksOld major minor) ∧
      (AllDecimal major minor patch → LooksOld major minor → IsOld major minor) := by
  rw [PlainVersion, and_iff_right hnumbers, hparts]
  constructor
  · exact fun h => h major minor patch rfl
  · intro h a b c heq
    cases heq
    exact h

/-- Three parts that look old make a plain version if they are not recent. -/
theorem plainVersion_of_looksOld (hparts : versionParts apiVersion = [major, minor, patch])
    (hnumbers : ∀ part ∈ versionParts apiVersion, HasNumber part) (hlooks : LooksOld major minor) :
    PlainVersion apiVersion ↔ ¬ RecentVersion apiVersion := by
  rw [plainVersion_of_three hparts hnumbers, recentVersion_of_three hparts, not_and_not_right]
  constructor
  · exact fun h hdecimal => h.2 hdecimal hlooks
  · exact fun h => ⟨fun _ => hlooks, fun hdecimal _ => h hdecimal⟩

/-- Three parts that do not look old make a plain version if they are recent. -/
theorem plainVersion_of_not_looksOld (hparts : versionParts apiVersion = [major, minor, patch])
    (hnumbers : ∀ part ∈ versionParts apiVersion, HasNumber part)
    (hlooks : ¬ LooksOld major minor) : PlainVersion apiVersion ↔ RecentVersion apiVersion := by
  rw [plainVersion_of_three hparts hnumbers, recentVersion_of_three hparts]
  constructor
  · intro h
    have hdecimal : AllDecimal major minor patch := not_not.mp (mt h.1 hlooks)
    exact ⟨hdecimal, mt (looksOld_of_isOld hdecimal) hlooks⟩
  · exact fun h => ⟨fun hnot => absurd h.1 hnot, fun _ hold => absurd hold hlooks⟩

end ThreeParts

/-! ### What is returned -/

/-- The number of a part, cut to 32 bits. -/
def token (part : List Char) : UInt32 := .ofNat (leadingNumber part % 2 ^ 32).toNat

theorem toNat_token (part : List Char) :
    ((token part).toNat : ℤ) = leadingNumber part % 2 ^ 32 := by
  rw [token, UInt32.toNat_ofNat']
  omega

theorem mapM'_of_forall {α β : Type} {f : α → Except Abrupt β} {g : α → β} {xs : List α}
    (h : ∀ x ∈ xs, f x = .ok (g x)) : xs.mapM' f = .ok (xs.map g) := by
  induction xs with
  | nil => rfl
  | cons x xs ih =>
    obtain ⟨hx, hxs⟩ := List.forall_mem_cons.mp h
    rw [List.mapM'_cons, hx, ih hxs]
    rfl

/-- All parts are converted if they begin with numbers. -/
theorem versionTokens_eq {apiVersion : String}
    (h : ∀ part ∈ versionParts apiVersion, HasNumber part) :
    versionTokens apiVersion = .ok ((versionParts apiVersion).map token) := by
  refine mapM'_of_forall fun part hpart => ?_
  obtain ⟨n, hn⟩ := (stoul_isOk_iff part).mpr (h part hpart)
  have htoken : n.toUInt32 = token part := by
    have hvalue := (toNat_toUInt32_stoul hn).trans (toNat_token part).symm
    exact UInt32.toNat_inj.mp (Int.natCast_inj.mp hvalue)
  rw [hn, ← htoken]
  rfl

/-- A part that cannot be converted throws. -/
theorem versionTokens_of_not {apiVersion : String}
    (h : ¬ ∀ part ∈ versionParts apiVersion, HasNumber part) :
    ∃ e, versionTokens apiVersion = .error (.throw e) := by
  cases htokens : versionTokens apiVersion with
  | ok tokens =>
    refine absurd (fun part hpart => ?_) h
    have hconverted := (versionTokens_isOk_iff apiVersion).mp ⟨tokens, htokens⟩
    exact (stoul_isOk_iff part).mp (hconverted part hpart)
  | error why =>
    obtain ⟨e, rfl⟩ := versionTokens_eq_error htokens
    exact ⟨e, rfl⟩

section ProcessApiVersion

variable {apiVersion : String} {params : Json} {s : StreamMeta}

theorem returned?_of_throw (hfind : params.find? version = some (.string apiVersion)) {e : Thrown}
    (htokens : versionTokens apiVersion = .error (.throw e)) :
    returned? (processApiVersion params s) = none := by
  simp only [processApiVersion, hfind, Json.getString, Completion.eval_ok, htokens,
    Completion.eval_error]
  rfl

/-- Three parts are compared with 0.6.0. -/
theorem returned?_of_three (hfind : params.find? version = some (.string apiVersion))
    {major minor patch : List Char} (hparts : versionParts apiVersion = [major, minor, patch])
    (hnumbers : ∀ part ∈ versionParts apiVersion, HasNumber part) :
    (LooksOld major minor → returned? (processApiVersion params s) = some (-1)) ∧
      (¬ LooksOld major minor → returned? (processApiVersion params s) = some 0) := by
  have htokens := versionTokens_eq hnumbers
  have hold : token major < 1 ∧ token minor < 6 ↔ LooksOld major minor := by
    rw [LooksOld, ← toNat_token, ← toNat_token, UInt32.lt_iff_toNat_lt, UInt32.lt_iff_toNat_lt]
    change (token major).toNat < 1 ∧ (token minor).toNat < 6 ↔ _
    omega
  simp only [processApiVersion, hfind, Json.getString, Completion.eval_ok, htokens, hparts,
    List.map_cons, List.map_nil]
  constructor
  · intro h
    rw [if_pos (hold.mpr h)]
    rfl
  · intro h
    rw [if_neg (mt hold.mp h)]
    rfl

/-- Another number of parts is rejected. -/
theorem returned?_of_not_three (hfind : params.find? version = some (.string apiVersion))
    (hparts : (versionParts apiVersion).length ≠ 3)
    (hnumbers : ∀ part ∈ versionParts apiVersion, HasNumber part) :
    returned? (processApiVersion params s) = some (-1) := by
  have htokens := versionTokens_eq hnumbers
  have hlength : ((versionParts apiVersion).map token).length ≠ 3 := by rwa [List.length_map]
  simp only [processApiVersion, hfind, Json.getString, Completion.eval_ok, htokens]
  split
  · rename_i heq
    rw [heq] at hlength
    exact absurd rfl hlength
  · rfl

end ProcessApiVersion

/-- **The version of the protocol.** Exactly the recent versions are accepted and all other texts
rejected, if and only if the text is plain. -/
theorem judgesVersion_iff [JsonRuntime] {m : MetaInformation} {s : StreamMeta} {apiVersion : String}
    (hmethod : m.method = .ok metaMethodApiversion)
    (hfind : m.params.find? version = some (.string apiVersion)) :
    JudgesVersion apiVersion (s.processMetaInformation m) ↔ PlainVersion apiVersion := by
  have hprocess : s.processMetaInformation m = s.processApiVersion m.params := by
    simp only [processMetaInformation, hmethod, Completion.eval_ok, if_true]
  rw [hprocess]
  by_cases hnumbers : ∀ part ∈ versionParts apiVersion, HasNumber part
  · by_cases hthree : (versionParts apiVersion).length = 3
    · obtain ⟨major, minor, patch, hparts⟩ := List.length_eq_three.mp hthree
      obtain ⟨hold, hnew⟩ := returned?_of_three (s := s) hfind hparts hnumbers
      by_cases hlooks : LooksOld major minor
      · rw [judgesVersion_of_rejected (hold hlooks),
          plainVersion_of_looksOld hparts hnumbers hlooks]
      · rw [judgesVersion_of_accepted (hnew hlooks),
          plainVersion_of_not_looksOld hparts hnumbers hlooks]
    · have hparts (major minor patch : List Char) :
          versionParts apiVersion ≠ [major, minor, patch] :=
        fun h => hthree (by rw [h]; rfl)
      have hold : ¬ RecentVersion apiVersion := by
        rw [recentVersion_iff]
        rintro ⟨major, minor, patch, h, -⟩
        exact hparts major minor patch h
      have hrejected := returned?_of_not_three (s := s) hfind hthree hnumbers
      refine iff_of_true ((judgesVersion_of_rejected hrejected).mpr hold) ⟨hnumbers, ?_⟩
      exact fun major minor patch h => absurd h (hparts major minor patch)
  · obtain ⟨e, htokens⟩ := versionTokens_of_not hnumbers
    refine iff_of_false ?_ fun h => hnumbers h.1
    exact not_judgesVersion_of_throws (returned?_of_throw hfind htokens)

/-- Meta information with a version. -/
def apiVersionMessage (apiVersion : String) : MetaInformation :=
  .message metaMethodApiversion (.object [(version, .string apiVersion)])

/-- The version of a producer is plain, and accepted. -/
theorem judgesVersion_current : JudgesVersion "1.5.0"
    (@processMetaInformation decimalRuntime (apiVersionMessage "1.5.0") {}) := by
  let _ : JsonRuntime := decimalRuntime
  refine (judgesVersion_iff rfl rfl).mpr ?_
  have hparts : versionParts "1.5.0" = [['1'], ['5'], ['0']] := rfl
  have hnumbers : ∀ part ∈ versionParts "1.5.0", HasNumber part := by
    rw [hparts]
    decide
  refine (plainVersion_of_three hparts hnumbers).mpr ⟨fun hdecimal => ?_, fun _ hold => ?_⟩
  · exact absurd (by unfold AllDecimal; decide) hdecimal
  · exact absurd hold (by unfold LooksOld; decide)

/-- Three texts that are misjudged: one without a number, which throws, one with a number and more
text, which is accepted, and one with a large number, which is rejected. -/
theorem not_judgesVersion_latest :
    ¬ JudgesVersion "latest" (@processMetaInformation decimalRuntime
        (apiVersionMessage "latest") {}) ∧
      returned? (@processMetaInformation decimalRuntime
        (apiVersionMessage "1.0.0rc") {}) = some 0 ∧
      returned? (@processMetaInformation decimalRuntime
        (apiVersionMessage "4294967296.0.0") {}) = some (-1) := by
  refine ⟨not_judgesVersion_of_throws (by decide +kernel), ?_, ?_⟩
  · decide +kernel
  · decide +kernel

end StreamMeta

end StreamingProtocol
