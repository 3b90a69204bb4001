import GpuCounters.Proofs.Decimal.Numerals
import GpuCounters.Proofs.Decimal.RoundTrip
import GpuCounters.Proofs.Settings.Sources

/-!
# Texts of the environment

A variable does not say of what kind its text is. Even for a setting that is a text, what looks like
a truth value or a number is taken for one and then written again. It comes back as it was exactly
if it looks like neither, or is written just as the value is.
-/

namespace GpuCounters.Settings

open Decimal

/-! ## Texts taken for values -/

/-- A text of the environment as it is written again. -/
def rewritten (text : String) : String := (Loose.ofText text).text?.getD text

/-- Whether a text is taken for a truth value. -/
def SaysBool (text : String) : Prop := fold text = "true" ∨ fold text = "false"

/-- Whether a text is written just as the value that it is taken for. -/
inductive IsVerbatim (text : String) : Prop
  | bool (spelled : text = "true" ∨ text = "false")
  | integer (n : ℤ) (low : -2 ^ 63 ≤ n) (high : n < 2 ^ 63) (spelled : text = toString n)
  | float (x : Binary64) (noInteger : readSigned? (Nat.pow 2 63) text.toList = none)
      (spelled : text.toList = plain.render x)
  | word (noBool : ¬SaysBool text) (noInteger : readSigned? (Nat.pow 2 63) text.toList = none)
      (noFloat : readDouble? text.toList = none)

section Texts

variable {text : String}

theorem ofText_of_not_saysBool (h : ¬SaysBool text) :
    Loose.ofText text =
      match readSigned? (Nat.pow 2 63) text.toList with
      | some n => .integer n
      | none =>
        match readDouble? text.toList with
        | some x => .float x
        | none => .text text := by
  rw [SaysBool, not_or] at h
  unfold Loose.ofText
  split
  · rename_i heq
    exact absurd heq h.1
  · rename_i heq
    exact absurd heq h.2
  · rfl

theorem rewritten_of_true (h : fold text = "true") : rewritten text = "true" := by
  rw [rewritten, Loose.ofText, h]
  rfl

theorem rewritten_of_false (h : fold text = "false") : rewritten text = "false" := by
  rw [rewritten, Loose.ofText, h]
  rfl

theorem rewritten_of_integer (h : ¬SaysBool text) {n : ℤ}
    (hread : readSigned? (Nat.pow 2 63) text.toList = some n) : rewritten text = toString n := by
  rw [rewritten, ofText_of_not_saysBool h, hread]
  rfl

theorem rewritten_of_float (h : ¬SaysBool text)
    (hinteger : readSigned? (Nat.pow 2 63) text.toList = none) {x : Binary64}
    (hread : readDouble? text.toList = some x) :
    rewritten text = String.ofList (plain.render x) := by
  rw [rewritten, ofText_of_not_saysBool h, hinteger, hread]
  rfl

theorem rewritten_of_word (h : ¬SaysBool text)
    (hinteger : readSigned? (Nat.pow 2 63) text.toList = none)
    (hfloat : readDouble? text.toList = none) : rewritten text = text := by
  rw [rewritten, ofText_of_not_saysBool h, hinteger, hfloat]
  rfl

/-- Both words for truth values have an `e`. -/
theorem not_saysBool_of_forall (h : ∀ c ∈ text.toList, c.toLower ≠ 'e') : ¬SaysBool text := by
  have hlower : 'e' ∉ (fold text).toList := by
    rw [fold, Mode.lowercase, String.toList_ofList, List.mem_map]
    rintro ⟨c, hc, hlower⟩
    exact h c hc hlower
  rintro (htrue | hfalse)
  · rw [htrue] at hlower
    exact hlower (by decide)
  · rw [hfalse] at hlower
    exact hlower (by decide)

theorem toLower_ne_e_of_isDigit {c : Char} (h : c.isDigit = true) : c.toLower ≠ 'e' := by
  rw [toLower_of_isDigit h]
  exact ne_of_isDigit h (by decide)

theorem not_saysBool_toString (n : ℤ) : ¬SaysBool (toString n) :=
  not_saysBool_of_forall (forall_mem_toString n (fun _ ↦ toLower_ne_e_of_isDigit) (by decide))

theorem not_saysBool_render {x : Binary64} (h : text.toList = plain.render x) : ¬SaysBool text := by
  refine not_saysBool_of_forall ?_
  rw [h]
  exact forall_mem_render hasDecimals_double x (fun _ ↦ toLower_ne_e_of_isDigit) (by decide)

/-- What a value is written as is taken for that value, but for a float that is a whole number. -/
theorem rewritten_eq_self_iff : rewritten text = text ↔ IsVerbatim text := by
  constructor
  · -- The cases are those in which a text is taken for a value, each after all before it failed.
    intro h
    by_cases hbool : SaysBool text
    · refine .bool (hbool.imp (fun htrue ↦ ?_) fun hfalse ↦ ?_)
      · exact h.symm.trans (rewritten_of_true htrue)
      · exact h.symm.trans (rewritten_of_false hfalse)
    · cases hinteger : readSigned? (Nat.pow 2 63) text.toList with
      | some n =>
        rw [rewritten_of_integer hbool hinteger] at h
        obtain ⟨hlow, hhigh⟩ := range_of_readSigned? (by decide) hinteger
        exact .integer n hlow hhigh h.symm
      | none =>
        cases hfloat : readDouble? text.toList with
        | some x =>
          rw [rewritten_of_float hbool hinteger hfloat] at h
          exact .float x hinteger (by rw [← h, String.toList_ofList])
        | none => exact .word hbool hinteger hfloat
  · rintro (hbool | ⟨n, hlow, hhigh, rfl⟩ | ⟨x, hinteger, hfloat⟩ | ⟨hbool, hinteger, hfloat⟩)
    · obtain rfl | rfl := hbool
      · exact rewritten_of_true (by decide)
      · exact rewritten_of_false (by decide)
    · exact rewritten_of_integer (not_saysBool_toString n) (readSigned?_toString hlow hhigh)
    · rw [rewritten_of_float (not_saysBool_render hfloat) hinteger
        (hfloat ▸ readDouble?_render x), ← hfloat, String.ofList_toList]
    · exact rewritten_of_word hbool hinteger hfloat

end Texts

/-! ## Texts that are of use -/

/-- Whether a text may be any of the settings that are texts. -/
def IsUsable (text : String) : Prop :=
  isBlankText text = false ∧ text.toList.any isUnsafe = false

/-- A character that is neither white space nor out of place in a file's name. -/
def IsUsableChar (c : Char) : Prop := Text.isBlank c = false ∧ isUnsafe c = false

instance : DecidablePred IsUsableChar := fun _ ↦ inferInstanceAs (Decidable (_ ∧ _))

section Use

variable {text : String}

theorem isUsable_of_forall (hne : text.toList ≠ []) (h : ∀ c ∈ text.toList, IsUsableChar c) :
    IsUsable text := by
  obtain ⟨c, rest, htext⟩ := List.exists_cons_of_ne_nil hne
  constructor
  · have hc : Text.isBlank c = false := (h c (htext ▸ List.mem_cons_self)).1
    rw [isBlankText, Text.isAllBlank, htext, List.all_cons, hc, Bool.false_and]
  · rw [List.any_eq_false]
    intro c hc
    rw [(h c hc).2]
    exact Bool.false_ne_true

theorem isUsableChar_of_isDigit {c : Char} (h : c.isDigit = true) : IsUsableChar c := by
  refine ⟨Text.isBlank_of_isDigit h, ?_⟩
  have hslash : c ≠ '/' := ne_of_isDigit h (by decide)
  have hzero : c ≠ '\x00' := ne_of_isDigit h (by decide)
  simp [isUnsafe, hslash, hzero]

/-- A text comes back as it was, or as one that is of use. -/
theorem rewritten_eq_self_or_isUsable (text : String) :
    rewritten text = text ∨ IsUsable (rewritten text) := by
  by_cases hbool : SaysBool text
  · refine .inr ?_
    obtain htrue | hfalse := hbool
    · rw [rewritten_of_true htrue]
      exact isUsable_of_forall (by decide) (List.forall_iff_forall_mem.1 (by decide))
    · rw [rewritten_of_false hfalse]
      exact isUsable_of_forall (by decide) (List.forall_iff_forall_mem.1 (by decide))
  · cases hinteger : readSigned? (Nat.pow 2 63) text.toList with
    | some n =>
      refine .inr ?_
      rw [rewritten_of_integer hbool hinteger]
      exact isUsable_of_forall (toString_ne_nil n)
        (forall_mem_toString n (fun _ ↦ isUsableChar_of_isDigit) (by decide))
    | none =>
      cases hfloat : readDouble? text.toList with
      | none => exact .inl (rewritten_of_word hbool hinteger hfloat)
      | some x =>
        refine .inr ?_
        rw [rewritten_of_float hbool hinteger hfloat]
        have hne : plain.render x ≠ [] := by
          intro hnil
          have hread := readDouble?_render x
          rw [hnil] at hread
          cases hread
        refine isUsable_of_forall ?_ ?_
        · rwa [String.toList_ofList]
        · rw [String.toList_ofList]
          exact forall_mem_render hasDecimals_double x (fun _ ↦ isUsableChar_of_isDigit)
            (by decide)

end Use

/-! ## Settings that are texts -/

/-- A setting that is a text and has to be of use. -/
inductive TextSetting
  | metricSet
  | driverLibrary
  deriving DecidableEq, Repr

namespace TextSetting

def key : TextSetting → String
  | metricSet => "metric_set"
  | driverLibrary => "driver_library"

def get : TextSetting → Settings → String
  | metricSet, settings => settings.metricSet
  | driverLibrary, settings => settings.driverLibrary

def put : TextSetting → Settings → String → Settings
  | metricSet, settings, text => { settings with metricSet := text }
  | driverLibrary, settings, text => { settings with driverLibrary := text }

/-- Whether a text is of use as a setting. -/
def Accepts (setting : TextSetting) (text : String) : Prop := (setting.put {} text).IsValid

instance (setting : TextSetting) (text : String) : Decidable (setting.Accepts text) :=
  inferInstanceAs (Decidable (IsValid _))

@[simp] theorem get_put (setting : TextSetting) (settings : Settings) (text : String) :
    setting.get (setting.put settings text) = text := by
  cases setting <;> rfl

theorem isValid_put (setting : TextSetting) {settings : Settings} {text : String}
    (h : settings.IsValid) (accepted : setting.Accepts text) :
    (setting.put settings text).IsValid := by
  rw [isValid_iff] at h ⊢
  rw [Accepts, isValid_iff] at accepted
  cases setting with
  | metricSet => exact ⟨accepted.1, accepted.2.1, h.2.2⟩
  | driverLibrary => exact ⟨h.1, h.2.1, accepted.2.2⟩

theorem accepts_of_isUsable (setting : TextSetting) {text : String} (h : IsUsable text) :
    setting.Accepts text := by
  have hdefaults := (isValid_iff {}).1 (by decide)
  rw [Accepts, isValid_iff]
  cases setting with
  | metricSet => exact ⟨h.1, h.2, hdefaults.2.2⟩
  | driverLibrary => exact ⟨hdefaults.1, hdefaults.2.1, h.1⟩

theorem accepts_rewritten (setting : TextSetting) {text : String} (h : setting.Accepts text) :
    setting.Accepts (rewritten text) := by
  obtain hsame | husable := rewritten_eq_self_or_isUsable text
  · rwa [hsame]
  · exact setting.accepts_of_isUsable husable

end TextSetting

/-! ## Loading -/

/-- Whether two sources say the same but for one key. -/
def AgreeOff (key : String) (source other : Source) : Prop :=
  ∀ name, name ≠ key → source.lookup name = other.lookup name

theorem AgreeOff.add {key : String} {source other : Source} (h : AgreeOff key source other)
    (name : String) (value : Loose) :
    AgreeOff key (source.add name value) (other.add name value) := by
  intro found hfound
  rw [Source.lookup_add, Source.lookup_add, h found hfound]
  by_cases hroot : found = (pathOf name).1
  · rw [if_pos hroot, if_pos hroot, h _ (hroot ▸ hfound)]
  · rw [if_neg hroot, if_neg hroot]

theorem AgreeOff.addAll {key : String} {source other : Source} (h : AgreeOff key source other)
    (values : List (String × Loose)) :
    AgreeOff key (source.addAll values) (other.addAll values) := by
  induction values generalizing source other with
  | nil => exact h
  | cons value rest ih => exact ih (h.add value.1 value.2)

/-- What was read of a source but for one text is read of another that agrees with it. -/
theorem TextSetting.ofSource?_put (setting : TextSetting) {source other : Source} {base : Settings}
    {value : Loose} {text : String} (h : AgreeOff setting.key source other)
    (hvalue : source.lookup setting.key = some value) (htext : value.text? = some text)
    (hbase : ofSource? other = some base) :
    ofSource? source = some (setting.put base text) := by
  have htake : ∀ default, take source setting.key Loose.text? default = some text := by
    intro default
    rw [take, hvalue]
    exact htext
  obtain ⟨hsampling, hmetricSet, hfile, hmax, htiming, hlibrary, hroot⟩ :=
    ofSource?_eq_some_iff.1 hbase
  have hsame : ∀ name, name ≠ setting.key → ∀ {α : Type} {read : Loose → Option α}
      {default : α} {taken : Option α}, take other name read default = taken →
      take source name read default = taken := by
    rintro name hname α read default taken rfl
    rw [take, take, h name hname]
  refine ofSource?_eq_some_iff.2 ?_
  cases setting with
  | metricSet =>
    exact ⟨hsame _ (by decide) hsampling, htake _, hsame _ (by decide) hfile,
      hsame _ (by decide) hmax, hsame _ (by decide) htiming, hsame _ (by decide) hlibrary,
      hsame _ (by decide) hroot⟩
  | driverLibrary =>
    exact ⟨hsame _ (by decide) hsampling, hsame _ (by decide) hmetricSet, hsame _ (by decide) hfile,
      hsame _ (by decide) hmax, hsame _ (by decide) htiming, htake _, hsame _ (by decide) hroot⟩

theorem text?_ofText (text : String) : (Loose.ofText text).text? = some (rewritten text) := by
  have hsome : (Loose.ofText text).text?.isSome := by
    unfold Loose.ofText
    split
    · rfl
    · rfl
    · split
      · rfl
      · split <;> rfl
  obtain ⟨found, hfound⟩ := Option.isSome_iff_exists.1 hsome
  rw [rewritten, hfound, Option.getD_some]

namespace TextSetting

variable (setting : TextSetting)

theorem pathOf_key : pathOf setting.key = (setting.key, []) := by
  cases setting <;> exact pathOf_of_mem_settingKeys (by decide)

variable {before after : List (String × String)} {name : String}

/-- The source of an environment with one variable for a setting that is a text. -/
theorem addVariables_of_named (named : variableKey? name = some setting.key) (source : Source)
    (text : String) :
    source.addVariables (before ++ (name, text) :: after) =
      ((source.addAll (valuesOf before)).add setting.key (.ofText text)).addAll
        (valuesOf after) := by
  rw [Source.addVariables_eq_addAll, valuesOf_append, valuesOf_cons_of_some named,
    Source.addAll_append, Source.addAll_cons]

theorem lookup_addVariables (named : variableKey? name = some setting.key)
    (alone : ∀ entry ∈ after, ∀ key ∈ variableKey? entry.1, (pathOf key).1 ≠ setting.key)
    (source : Source) (text : String) :
    (source.addVariables (before ++ (name, text) :: after)).lookup setting.key =
      some (.ofText text) := by
  rw [setting.addVariables_of_named named, Source.lookup_addAll_of_ne,
    Source.lookup_add_self _ setting.pathOf_key]
  intro value hvalue
  obtain ⟨entry, hentry, hkey⟩ := exists_variable_of_mem_valuesOf hvalue
  exact alone entry hentry value.1 hkey

/-- The text of a variable makes no difference to any other setting. -/
theorem agreeOff_addVariables (named : variableKey? name = some setting.key) (source : Source)
    (text other : String) :
    AgreeOff setting.key (source.addVariables (before ++ (name, text) :: after))
      (source.addVariables (before ++ (name, other) :: after)) := by
  rw [setting.addVariables_of_named named, setting.addVariables_of_named named]
  refine AgreeOff.addAll (fun key hkey ↦ ?_) _
  have hroot : (pathOf setting.key).1 ≠ key := by
    rw [setting.pathOf_key]
    exact Ne.symm hkey
  rw [Source.lookup_add_of_ne _ hroot, Source.lookup_add_of_ne _ hroot]

/-- If settings are loaded with any text in a variable for the metric set or the library, then they
are with each text that is of use, and nothing else changes. That text is what is loaded exactly if
it is written as the value that it is taken for. -/
theorem load_eq_ok_put_rewritten {file : Option (Option String)} {text other : String}
    {base : Settings} (named : variableKey? name = some setting.key)
    (alone : ∀ entry ∈ after, ∀ key ∈ variableKey? entry.1, (pathOf key).1 ≠ setting.key)
    (accepted : setting.Accepts text)
    (loaded : load file (before ++ (name, other) :: after) = .ok base) :
    ∃ settings, load file (before ++ (name, text) :: after) = .ok settings ∧
      settings = setting.put base (rewritten text) ∧
      (setting.get settings = text ↔ IsVerbatim text) := by
  obtain ⟨source, hsource, hbase, hvalid⟩ := load_eq_ok_iff.1 loaded
  have hsettings := setting.ofSource?_put (setting.agreeOff_addVariables named source text other)
    (setting.lookup_addVariables named alone source text) (text?_ofText text) hbase
  refine ⟨setting.put base (rewritten text), load_eq_ok_iff.2 ⟨source, hsource, hsettings, ?_⟩,
    rfl, ?_⟩
  · exact setting.isValid_put hvalid (setting.accepts_rewritten accepted)
  · rw [get_put]
    exact rewritten_eq_self_iff

/-- A text that is written just as the fraction that it is taken for. -/
theorem load_eq_ok_put_rewritten_fraction :
    load none [("MDLENS_DRIVER_LIBRARY", "1.5"), ("HOME", "/")] = .ok { driverLibrary := "1.5" } ∧
      IsVerbatim "1.5" := by
  have hbase : load none ([] ++ ("MDLENS_DRIVER_LIBRARY", "x") :: [("HOME", "/")]) =
      .ok { driverLibrary := "x" } := rfl
  obtain ⟨settings, hload, rfl, hkept⟩ :=
    driverLibrary.load_eq_ok_put_rewritten rfl (by decide) (by decide : Accepts _ "1.5") hbase
  exact ⟨hload.trans rfl, hkept.1 rfl⟩

/-- Texts of use that are taken for numbers come back in other digits. -/
theorem load_ne_text_of_numbers :
    metricSet.Accepts "007" ∧ driverLibrary.Accepts "1e3" ∧
      load none [("MDLENS_METRIC_SET", "007"), ("MDLENS_DRIVER_LIBRARY", "1e3")] =
        .ok { metricSet := "7", driverLibrary := "1000" } :=
  ⟨by decide, by decide, rfl⟩

end TextSetting

end GpuCounters.Settings
