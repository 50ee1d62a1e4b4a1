import Mathlib.Data.List.DropRight
import WebhookPayload.Settings

/-! # Lists in settings

A list is written as one value: its entries stand between commas, with any white
space around them and with any number of blank texts among them. Whatever the way of
writing, the entries are read back exactly, and what is read from any value at all is
a list that can be written (`readList_eq_iff`). So it is with the lists of an environment,
as it is or after one of them is set (`listsReadBack`). -/

namespace WebhookPayload

/-! ## White space at the ends of a text -/

namespace Text

variable {cs before after : List Char}

def IsBlank (cs : List Char) : Prop := ∀ c ∈ cs, isWhitespace c = true

/-- There is no white space at either end. -/
structure IsTrimmed (cs : List Char) : Prop where
  first : ∀ c ∈ cs.head?, isWhitespace c = false
  last : ∀ c ∈ cs.getLast?, isWhitespace c = false

theorem IsBlank.append (h : IsBlank before) (h' : IsBlank after) : IsBlank (before ++ after) :=
  List.forall_mem_append.mpr ⟨h, h'⟩

theorem trimStart_eq_nil_iff : trimStart cs = [] ↔ IsBlank cs := List.dropWhile_eq_nil_iff

theorem first_trimStart (cs : List Char) : ∀ c ∈ (trimStart cs).head?, isWhitespace c = false := by
  intro c first
  have found := List.head?_dropWhile_not isWhitespace cs
  rw [trimStart] at first
  rwa [Option.mem_def.mp first] at found

/-- A text that begins with white space is blank, once the white space is gone. -/
theorem trim_eq_nil_iff : trim cs = [] ↔ IsBlank cs := by
  refine Iff.trans ?_ trimStart_eq_nil_iff
  constructor
  case mp =>
    intro gone
    have blank : IsBlank (trimStart cs) := List.rdropWhile_eq_nil_iff.mp gone
    cases left : trimStart cs with
    | nil => rfl
    | cons c rest =>
      have solid := first_trimStart cs c (by simp [left])
      rw [blank c (by simp [left])] at solid
      cases solid
  case mpr =>
    intro gone
    rw [trim, gone]
    rfl

theorem trimEnd_append (blank : IsBlank after) : trimEnd (cs ++ after) = trimEnd cs := by
  have backwards : ∀ c ∈ after.reverse, isWhitespace c = true :=
    fun c member => blank c (List.mem_reverse.mp member)
  rw [trimEnd, trimStart, List.reverse_append, List.dropWhile_append_of_pos backwards]
  rfl

theorem trim_append_left (blank : IsBlank before) : trim (before ++ cs) = trim cs := by
  rw [trim, trimStart, List.dropWhile_append_of_pos blank]
  rfl

theorem trim_append_right (blank : IsBlank after) : trim (cs ++ after) = trim cs := by
  by_cases empty : IsBlank cs
  · rw [trim_eq_nil_iff.mpr empty, trim_eq_nil_iff.mpr (empty.append blank)]
  · have left : (cs.dropWhile isWhitespace).isEmpty = false := by
      rw [← Bool.not_eq_true, List.isEmpty_iff]
      exact fun gone => empty (trimStart_eq_nil_iff.mp gone)
    rw [trim, trimStart, List.dropWhile_append, left]
    exact trimEnd_append blank

theorem trim_of_isTrimmed (h : IsTrimmed cs) : trim cs = cs := by
  have start : trimStart cs = cs := by
    refine List.dropWhile_eq_self_iff.mpr fun long => ?_
    simp [h.first cs[0] (by simp [List.head?_eq_getElem?])]
  have ending : cs.rdropWhile isWhitespace = cs := by
    refine List.rdropWhile_eq_self_iff.mpr fun some => ?_
    simp [h.last (cs.getLast some) (List.getLast?_eq_some_getLast some)]
  rw [trim, start]
  exact ending

theorem isTrimmed_trim (cs : List Char) : IsTrimmed (trim cs) := by
  by_cases none : trim cs = []
  · rw [none]
    exact ⟨nofun, nofun⟩
  constructor
  case first =>
    intro c first
    obtain ⟨rest, whole⟩ : trim cs <+: trimStart cs :=
      List.rdropWhile_prefix isWhitespace (trimStart cs)
    refine first_trimStart cs c ?_
    rw [← whole, List.head?_append, first]
    rfl
  case last =>
    intro c last
    have solid := List.rdropWhile_last_not isWhitespace (trimStart cs) none
    rw [List.getLast?_eq_some_getLast none, Option.mem_some_iff] at last
    rw [← last]
    exact Bool.eq_false_iff.mpr solid

/-- A text is its trimmed form between white space. -/
theorem exists_around_trim (cs : List Char) :
    ∃ before after, IsBlank before ∧ IsBlank after ∧ cs = before ++ trim cs ++ after := by
  refine ⟨cs.takeWhile isWhitespace, (trimStart cs).rtakeWhile isWhitespace,
    fun c => List.mem_takeWhile_imp, fun c => List.mem_rtakeWhile_imp, ?_⟩
  have inner : trim cs ++ (trimStart cs).rtakeWhile isWhitespace = trimStart cs :=
    List.rdropWhile_append_rtakeWhile
  rw [List.append_assoc, inner]
  exact List.takeWhile_append_dropWhile.symm

/-! ## Cutting at a character -/

theorem pieces_eq_splitOn (separator : Char) (cs : List Char) :
    pieces (· == separator) cs = cs.splitOn separator := by
  rw [List.splitOn_eq_splitOnP]
  induction cs with
  | nil => rfl
  | cons c cs ih =>
    rw [List.splitOnP_cons_eq_if_modifyHead, pieces, ih]
    split
    · rfl
    · obtain ⟨piece, rest, found⟩ :=
        List.exists_cons_of_ne_nil (List.splitOnP_ne_nil (· == separator) cs)
      rw [found]
      rfl

end Text

/-! ## Ways of writing a list -/

namespace Environment

open Text

/-- What can be an entry of a list: a text that begins and ends with something to read and
has no comma in it. -/
structure IsEntry (entry : String) : Prop where
  ne_empty : entry ≠ ""
  noComma : ',' ∉ entry.toList
  trimmed : IsTrimmed entry.toList

/-- Texts that spell the entries of a list: each is blank, or the next entry between white space. -/
inductive Spells : List (List Char) → List String → Prop
  | nil : Spells [] []
  | blank {text : List Char} {texts : List (List Char)} {entries : List String}
      (blank : IsBlank text) (rest : Spells texts entries) : Spells (text :: texts) entries
  | entry {before after : List Char} {texts : List (List Char)} {entries : List String}
      (entry : String) (blankBefore : IsBlank before) (blankAfter : IsBlank after)
      (rest : Spells texts entries) :
      Spells ((before ++ entry.toList ++ after) :: texts) (entry :: entries)

/-- The value is a way of writing the list: texts that spell its entries, joined by commas. -/
def Writes (value : String) (entries : List String) : Prop :=
  ∃ texts, Spells texts entries ∧ value.toList = [','].intercalate texts

/-- The entries that some texts spell. -/
def spelled (texts : List (List Char)) : List String :=
  ((texts.map trim).filter (· ≠ [])).map String.ofList

theorem readList_eq_spelled (value : String) :
    readList value = spelled (value.toList.splitOn ',') := by
  rw [readList, pieces_eq_splitOn]
  rfl

theorem spelled_cons_of_blank {text : List Char} (blank : IsBlank text)
    (texts : List (List Char)) : spelled (text :: texts) = spelled texts := by
  simp [spelled, trim_eq_nil_iff.mpr blank]

theorem spelled_cons {text : List Char} (solid : ¬ IsBlank text) (texts : List (List Char)) :
    spelled (text :: texts) = String.ofList (trim text) :: spelled texts := by
  simp [spelled, mt trim_eq_nil_iff.mp solid]

theorem noComma_of_isBlank {text : List Char} (blank : IsBlank text) : ',' ∉ text := by
  intro comma
  have : isWhitespace ',' = false := by decide
  rw [blank _ comma] at this
  cases this

theorem Spells.noComma {texts : List (List Char)} {entries : List String}
    (h : Spells texts entries) (valid : ∀ entry ∈ entries, IsEntry entry) :
    ∀ text ∈ texts, ',' ∉ text := by
  induction h with
  | nil => exact nofun
  | blank blank _ ih => exact List.forall_mem_cons.mpr ⟨noComma_of_isBlank blank, ih valid⟩
  | entry entry blankBefore blankAfter _ ih =>
    obtain ⟨own, others⟩ := List.forall_mem_cons.mp valid
    refine List.forall_mem_cons.mpr ⟨?_, ih others⟩
    simp [noComma_of_isBlank blankBefore, noComma_of_isBlank blankAfter, own.noComma]

/-- Entries that are spelled are found. -/
theorem Spells.spelled_eq {texts : List (List Char)} {entries : List String}
    (h : Spells texts entries) (valid : ∀ entry ∈ entries, IsEntry entry) :
    spelled texts = entries := by
  induction h with
  | nil => rfl
  | blank blank _ ih => rw [spelled_cons_of_blank blank, ih valid]
  | @entry before after _ _ entry blankBefore blankAfter _ ih =>
    obtain ⟨own, others⟩ := List.forall_mem_cons.mp valid
    have inner : trim (before ++ entry.toList ++ after) = entry.toList := by
      rw [trim_append_right blankAfter, trim_append_left blankBefore,
        trim_of_isTrimmed own.trimmed]
    have solid : ¬ IsBlank (before ++ entry.toList ++ after) := by
      rw [← trim_eq_nil_iff, inner]
      exact fun none => own.ne_empty (String.toList_eq_nil_iff.mp none)
    rw [spelled_cons solid, inner, String.ofList_toList, ih others]

/-- Any texts spell the entries that are found in them. -/
theorem spells_spelled (texts : List (List Char)) : Spells texts (spelled texts) := by
  induction texts with
  | nil => exact .nil
  | cons text texts ih =>
    by_cases blank : IsBlank text
    · rw [spelled_cons_of_blank blank]
      exact .blank blank ih
    · obtain ⟨before, after, blankBefore, blankAfter, whole⟩ := exists_around_trim text
      rw [spelled_cons blank]
      have spelt := Spells.entry (String.ofList (trim text)) blankBefore blankAfter ih
      rw [String.toList_ofList, ← whole] at spelt
      exact spelt

theorem isEntry_of_mem_spelled {texts : List (List Char)} (noComma : ∀ text ∈ texts, ',' ∉ text) :
    ∀ entry ∈ spelled texts, IsEntry entry := by
  intro entry found
  obtain ⟨inner, member, rfl⟩ := List.mem_map.mp found
  obtain ⟨trimmed, some⟩ := List.mem_filter.mp member
  obtain ⟨text, origin, rfl⟩ := List.mem_map.mp trimmed
  constructor
  case ne_empty =>
    intro none
    rw [← String.toList_eq_nil_iff, String.toList_ofList] at none
    simp [none] at some
  case noComma =>
    obtain ⟨before, after, -, -, whole⟩ := exists_around_trim text
    have free := noComma text origin
    rw [whole] at free
    rw [String.toList_ofList]
    exact fun comma => free (by simp [comma])
  case trimmed =>
    rw [String.toList_ofList]
    exact isTrimmed_trim text

/-- A value reads as a list exactly if it is a way of writing that list. -/
theorem readList_eq_iff {value : String} {entries : List String} :
    readList value = entries ↔ (∀ entry ∈ entries, IsEntry entry) ∧ Writes value entries := by
  rw [readList_eq_spelled]
  constructor
  case mp =>
    rintro rfl
    refine ⟨isEntry_of_mem_spelled fun text piece comma => ?_, _, spells_spelled _,
      (List.intercalate_splitOn ',').symm⟩
    rw [← pieces_eq_splitOn] at piece
    cases not_isSeparator_of_mem_pieces piece comma
  case mpr =>
    rintro ⟨valid, texts, spells, written⟩
    cases texts with
    | nil =>
      cases spells
      rw [written]
      rfl
    | cons text texts =>
      rw [written, List.splitOn_intercalate ',' (spells.noComma valid) (List.cons_ne_nil _ _)]
      exact spells.spelled_eq valid

example : readList " tax,, invoicing , tax" = ["tax", "invoicing", "tax"] := by cbv

/-- Entries joined by commas are a way of writing them. -/
theorem writes_intercalate (entries : List String) :
    Writes (",".intercalate entries) entries := by
  refine ⟨entries.map String.toList, ?_, String.toList_intercalate⟩
  induction entries with
  | nil => exact .nil
  | cons entry entries ih =>
    have spelt : Spells (([] ++ entry.toList ++ []) :: entries.map String.toList)
        (entry :: entries) := .entry entry nofun nofun ih
    rw [List.nil_append, List.append_nil] at spelt
    exact spelt

/-! ## Lists of an environment -/

/-- Lists are read as they are written. -/
structure ListsReadBack (env : Environment) : Prop where
  /-- However a list is written, it is what is read, in order and with repetitions. -/
  decodes : ∀ name default value entries, env.get? name = some value →
    (∀ entry ∈ entries, IsEntry entry) → Writes value entries → env.list name default = entries
  /-- Whatever is read of a value can be written, and the value is a way of writing it. -/
  encoded : ∀ name default value, env.get? name = some value →
    (∀ entry ∈ env.list name default, IsEntry entry) ∧ Writes value (env.list name default)
  /-- What was read, joined by commas, is read again. -/
  again : ∀ name default value, env.get? name = some value → ∀ other : Environment,
    other.get? name = some (",".intercalate (env.list name default)) →
      other.list name default = env.list name default
  /-- The plugins that are enabled are those that are written; only the flag can be wrong. -/
  plugins : ∀ value entries, env.get? Settings.pluginsName = some value →
    (∀ entry ∈ entries, IsEntry entry) → Writes value entries →
      Settings.ofEnvironment env = (env.flag Settings.secureName false).map fun secure =>
        { plugins := entries, secure,
          host := fun _ => env.getD Settings.hostName Settings.defaultHost }
  /-- A list that is set is read, and whatever was there under the name does not matter. -/
  written : ∀ name default value entries, (∀ entry ∈ entries, IsEntry entry) →
    Writes value entries → (env.set name value).list name default = entries
  /-- The lists of other names are left alone. -/
  others : ∀ name value other default, other ≠ name →
    (env.set name value).list other default = env.list other default
  /-- Setting the plugins enables those that are written and changes no other setting. -/
  enabled : ∀ value entries, (∀ entry ∈ entries, IsEntry entry) → Writes value entries →
    Settings.ofEnvironment (env.set Settings.pluginsName value) =
      (Settings.ofEnvironment env).map fun settings => { settings with plugins := entries }
  /-- A list that is not set is the default. -/
  missing : ∀ name default, env.get? name = none → env.list name default = default
  /-- No plugin is enabled as long as none are set. -/
  disabled : env.get? Settings.pluginsName = none → ∀ settings,
    Settings.ofEnvironment env = .ok settings → settings.plugins = []

theorem list_eq_readList {env : Environment} {name value : String}
    (found : env.get? name = some value) (default : List String) :
    env.list name default = readList value := by
  rw [list, found]
  rfl

theorem list_eq_default {env : Environment} {name : String} (missing : env.get? name = none)
    (default : List String) : env.list name default = default := by
  rw [list, missing]
  rfl

theorem list_set_self (env : Environment) (name value : String) (default : List String) :
    (env.set name value).list name default = readList value :=
  list_eq_readList (env.get?_set_self name value) default

/-- Of the settings only the plugins are read from the list of plugins. -/
theorem ofEnvironment_set_plugins (env : Environment) (value : String) :
    Settings.ofEnvironment (env.set Settings.pluginsName value) =
      (Settings.ofEnvironment env).map fun settings =>
        { settings with plugins := readList value } := by
  have secureOther : Settings.secureName ≠ Settings.pluginsName := by decide
  have hostOther : Settings.hostName ≠ Settings.pluginsName := by decide
  have secure := env.flag_set_of_ne value secureOther false
  have host := env.getD_set_of_ne value hostOther Settings.defaultHost
  rw [Settings.ofEnvironment, Settings.ofEnvironment, secure, host, list_set_self]
  cases env.flag Settings.secureName false <;> rfl

theorem listsReadBack (env : Environment) : env.ListsReadBack := by
  have encoded : ∀ name default value, env.get? name = some value →
      (∀ entry ∈ env.list name default, IsEntry entry) ∧ Writes value (env.list name default) := by
    intro name default value found
    exact readList_eq_iff.mp (list_eq_readList found default).symm
  constructor
  case decodes =>
    intro name default value entries found valid written
    rw [list_eq_readList found]
    exact readList_eq_iff.mpr ⟨valid, written⟩
  case encoded => exact encoded
  case again =>
    intro name default value found other joined
    rw [list_eq_readList joined]
    exact readList_eq_iff.mpr ⟨(encoded name default value found).1, writes_intercalate _⟩
  case plugins =>
    intro value entries found valid written
    have same : env.list Settings.pluginsName [] = entries := by
      rw [list_eq_readList found]
      exact readList_eq_iff.mpr ⟨valid, written⟩
    rw [Settings.ofEnvironment, same]
    cases env.flag Settings.secureName false <;> rfl
  case written =>
    intro name default value entries valid written
    rw [list_set_self]
    exact readList_eq_iff.mpr ⟨valid, written⟩
  case others =>
    intro name value other default different
    exact env.list_set_of_ne value different default
  case enabled =>
    intro value entries valid written
    rw [ofEnvironment_set_plugins, readList_eq_iff.mpr ⟨valid, written⟩]
  case missing =>
    intro name default missing
    exact list_eq_default missing default
  case disabled =>
    intro missing settings read
    rw [Settings.ofEnvironment] at read
    cases flag : env.flag Settings.secureName false with
    | error error =>
      rw [flag] at read
      cases read
    | ok secure =>
      rw [flag] at read
      cases read
      exact list_eq_default missing []

end Environment

end WebhookPayload
