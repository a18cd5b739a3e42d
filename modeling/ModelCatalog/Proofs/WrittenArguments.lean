import ModelCatalog.CommandLine
import ModelCatalog.Proofs.WrittenNumbers

/-! Layouts written as arguments. What differs from its default stands in one option, in any order,
with its value behind an equals sign or as an argument of its own; reading the arguments gives the
layout back. An option that stands twice, wherever the second one is put, is misuse. -/
namespace ModelCatalog.CommandLine

/-- An option as it stands among the arguments. -/
inductive Occurrence
  | check
  /-- The value stands behind an equals sign. -/
  | joined (setting : Setting) (value : String)
  /-- The value is an argument of its own. -/
  | apart (setting : Setting) (value : String)
deriving DecidableEq, Repr

namespace Occurrence

def arguments : Occurrence → List String
  | .check => ["--check"]
  | .joined setting value => ["--" ++ setting.name ++ "=" ++ value]
  | .apart setting value => ["--" ++ setting.name, value]

/-- The setting that is given a value; the check gives none. -/
def setting? : Occurrence → Option Setting
  | .check => none
  | .joined setting _ => some setting
  | .apart setting _ => some setting

end Occurrence

/-- What a layout has for a setting, as it is written. -/
def Setting.text? (l : Layout) : Setting → Option String
  | .root => l.root.map Path.text
  | .database => l.database.map Path.text
  | .products => l.products.map Path.text
  | .infoTable => l.infoTable.map Path.text
  | .serialTable => l.serialTable.map Path.text
  | .boardMap => l.boardMap.map Path.text
  | .minYear => some (toString l.minYear.toNat)

/-- What the option tells of the layout is so. A value that begins with a hyphen must be joined. -/
def Occurrence.Holds (l : Layout) : Occurrence → Prop
  | .check => l.checkOnly = true
  | .joined setting value => setting.text? l = some value
  | .apart setting value => setting.text? l = some value ∧ value.toList.head? ≠ some '-'

instance (l : Layout) : (option : Occurrence) → Decidable (option.Holds l)
  | .check => inferInstanceAs (Decidable (l.checkOnly = true))
  | .joined setting value => inferInstanceAs (Decidable (setting.text? l = some value))
  | .apart setting value =>
    inferInstanceAs (Decidable (setting.text? l = some value ∧ value.toList.head? ≠ some '-'))

/-- The options tell everything about the layout that is not so by default, each thing once. -/
structure Writes (options : List Occurrence) (l : Layout) : Prop where
  once : (options.map Occurrence.setting?).Nodup
  holds : ∀ option ∈ options, option.Holds l
  checked : l.checkOnly = true → none ∈ options.map Occurrence.setting?
  unwritten : ∀ setting, some setting ∉ options.map Occurrence.setting? →
    setting.text? l = setting.text? {}

section Arguments

theorem ofName?_name (setting : Setting) : Setting.ofName? setting.name = some setting := by
  cases setting <;> decide

theorem ne_equals_of_mem_name (setting : Setting) :
    ∀ c ∈ setting.name.toList, (c != '=') = true := by
  apply List.all_eq_true.mp
  cases setting <;> decide

/-- The first equals sign ends the name, whatever stands in the value. -/
theorem ofText_joined (setting : Setting) (value : String) :
    Argument.ofText ("--" ++ setting.name ++ "=" ++ value) = .settingWith setting value := by
  have name := ne_equals_of_mem_name setting
  have split : ("--" ++ setting.name ++ "=" ++ value).toList =
      '-' :: '-' :: (setting.name.toList ++ '=' :: value.toList) := by
    simp
  have long : Argument.ofText ("--" ++ setting.name ++ "=" ++ value) =
      longArgument (setting.name.toList ++ '=' :: value.toList) := by
    rw [Argument.ofText, split]
    simp
  rw [long, longArgument]
  simp [List.takeWhile_append_of_pos name, List.dropWhile_append_of_pos name, ofName?_name]

theorem ofText_apart (setting : Setting) :
    Argument.ofText ("--" ++ setting.name) = .setting setting := by
  cases setting <;> decide

/-- What the options read so far become with one more. -/
def Options.take? (o : Options) : Occurrence → Option Options
  | .check => o.check?
  | .joined setting value => o.set? setting value
  | .apart setting value => if mayBeValue value then o.set? setting value else none

theorem parseFrom_arguments (o : Options) (option : Occurrence) (rest : List String) :
    parseFrom o (option.arguments ++ rest) =
      (o.take? option).elim .misuse fun o => parseFrom o rest := by
  cases option with
  | check =>
    have check : Argument.ofText "--check" = .check := by decide
    rw [Occurrence.arguments, List.singleton_append, Options.take?, parseFrom.eq_def]
    simp only [check]
    cases o.check? <;> rfl
  | joined setting value =>
    rw [Occurrence.arguments, List.singleton_append, Options.take?, parseFrom.eq_def]
    simp only [ofText_joined]
    cases o.set? setting value <;> rfl
  | apart setting value =>
    rw [Occurrence.arguments, List.cons_append, List.singleton_append, Options.take?,
      parseFrom.eq_def]
    simp only [ofText_apart]
    split
    · cases o.set? setting value <;> rfl
    · rfl

theorem parseFrom_options (o : Options) (options : List Occurrence) (rest : List String) :
    parseFrom o (options.flatMap Occurrence.arguments ++ rest) =
      (options.foldlM Options.take? o).elim .misuse fun o => parseFrom o rest := by
  induction options generalizing o with
  | nil => rfl
  | cons option others ih =>
    rw [List.flatMap_cons, List.append_assoc, parseFrom_arguments, List.foldlM_cons]
    cases o.take? option with
    | none => rfl
    | some next => exact ih next

theorem mayBeValue_hyphens (text : String) : mayBeValue ("--" ++ text) = false := by
  have longer : "--" ++ text ≠ "-" := by
    rw [ne_eq, ← String.toList_inj, String.toList_append]
    simp
  simp [mayBeValue, longer]

theorem exists_hyphens (option : Occurrence) :
    ∃ text others, option.arguments = ("--" ++ text) :: others := by
  cases option with
  | check => exact ⟨"check", _, rfl⟩
  | joined setting value =>
    refine ⟨setting.name ++ "=" ++ value, [], ?_⟩
    rw [Occurrence.arguments, String.append_assoc, String.append_assoc, String.append_assoc]
  | apart setting value => exact ⟨_, _, rfl⟩

/-- A setting does not take an option for its value. -/
theorem parseFrom_setting_option (o : Options) (setting : Setting) (option : Occurrence)
    (rest : List String) :
    parseFrom o (("--" ++ setting.name) :: (option.arguments ++ rest)) = .misuse := by
  obtain ⟨text, others, first⟩ := exists_hyphens option
  rw [first, List.cons_append, parseFrom.eq_def]
  simp [ofText_apart, mayBeValue_hyphens]

end Arguments

section Repeated

variable {o next : Options} {option : Occurrence} {options : List Occurrence}

/-- The setting has been given, or the check where no setting is named. -/
def Options.Has (o : Options) : Option Setting → Prop
  | none => o.checked = true
  | some setting => setting ∈ o.given

theorem set?_eq_some_iff {setting : Setting} {value : String} :
    o.set? setting value = some next ↔
      setting ∉ o.given ∧ ∃ layout, setting.assign? o.layout value = some layout ∧
        { o with layout := layout, given := setting :: o.given } = next := by
  unfold Options.set?
  split
  · next given => simp [given]
  · next fresh => simp [fresh]

theorem has_of_take? (taken : o.take? option = some next) :
    ¬ o.Has option.setting? ∧ ∀ key, next.Has key ↔ key = option.setting? ∨ o.Has key := by
  have set {setting : Setting} {value : String} (taken : o.set? setting value = some next) :
      ¬ o.Has (some setting) ∧ ∀ key, next.Has key ↔ key = some setting ∨ o.Has key := by
    obtain ⟨fresh, layout, _, rfl⟩ := set?_eq_some_iff.mp taken
    refine ⟨fresh, fun key => ?_⟩
    cases key <;> simp [Options.Has]
  cases option with
  | check =>
    rw [Options.take?, Options.check?] at taken
    split at taken
    · cases taken
    · next fresh =>
      obtain rfl := Option.some.inj taken
      refine ⟨fresh, fun key => ?_⟩
      cases key <;> simp [Options.Has, Occurrence.setting?]
  | joined setting value => exact set taken
  | apart setting value =>
    rw [Options.take?] at taken
    split at taken
    · exact set taken
    · cases taken

theorem has_of_foldlM (taken : options.foldlM Options.take? o = some next) :
    (options.map Occurrence.setting?).Nodup ∧
    (∀ key ∈ options.map Occurrence.setting?, ¬ o.Has key) ∧
    ∀ key, next.Has key ↔ key ∈ options.map Occurrence.setting? ∨ o.Has key := by
  induction options generalizing o with
  | nil =>
    obtain rfl := Option.some.inj taken
    simp
  | cons option others ih =>
    rw [List.foldlM_cons] at taken
    obtain ⟨middle, first, behind⟩ := Option.bind_eq_some_iff.mp taken
    obtain ⟨fresh, has⟩ := has_of_take? first
    obtain ⟨once, notYet, keys⟩ := ih behind
    simp only [has, not_or] at notYet
    rw [List.map_cons, List.nodup_cons, List.forall_mem_cons]
    refine ⟨⟨fun again => (notYet _ again).1 rfl, once⟩,
      ⟨fresh, fun key member => (notYet key member).2⟩, fun key => ?_⟩
    rw [keys, has, List.mem_cons, or_left_comm, or_assoc]

/-- The arguments of one option are cut at their ends, or between a setting and its value. -/
theorem arguments_eq_append {front back : List String} (cut : option.arguments = front ++ back) :
    front = [] ∨ back = [] ∨ ∃ setting, front = ["--" ++ Setting.name setting] := by
  cases front with
  | nil => exact .inl rfl
  | cons text rest =>
    right
    cases option with
    | check => simp_all [Occurrence.arguments]
    | joined setting value => simp_all [Occurrence.arguments]
    | apart setting value =>
      simp only [Occurrence.arguments, List.cons_append, List.cons.injEq] at cut
      obtain ⟨rfl, cut⟩ := cut
      cases rest with
      | nil => exact .inr ⟨setting, rfl⟩
      | cons _ others => simp_all

theorem flatMap_arguments_eq_append {front back : List String}
    (cut : options.flatMap Occurrence.arguments = front ++ back) :
    (∃ before behind : List Occurrence, options = before ++ behind ∧
      front = before.flatMap Occurrence.arguments ∧ back = behind.flatMap Occurrence.arguments) ∨
    ∃ (before : List Occurrence) (setting : Setting),
      front = before.flatMap Occurrence.arguments ++ ["--" ++ setting.name] := by
  induction options generalizing front with
  | nil =>
    obtain ⟨rfl, rfl⟩ := List.append_eq_nil_iff.mp cut.symm
    exact .inl ⟨[], [], rfl, rfl, rfl⟩
  | cons option others ih =>
    rw [List.flatMap_cons] at cut
    rcases List.append_eq_append_iff.mp cut with ⟨rest, rfl, later⟩ | ⟨rest, first, rfl⟩
    · rcases ih later with ⟨before, behind, rfl, rfl, rfl⟩ | ⟨before, setting, rfl⟩
      · exact .inl ⟨option :: before, behind, rfl, rfl, rfl⟩
      · exact .inr ⟨option :: before, setting, by rw [List.flatMap_cons, List.append_assoc]⟩
    · rcases arguments_eq_append first with rfl | rfl | ⟨setting, rfl⟩
      · exact .inl ⟨[], option :: others, rfl, rfl, by rw [List.flatMap_cons, first]; rfl⟩
      · rw [List.append_nil] at first
        exact .inl ⟨[option], others, rfl, by simp [first], rfl⟩
      · exact .inr ⟨[], setting, rfl⟩

theorem parse_repeated {front back : List String} {again : Occurrence}
    (cut : options.flatMap Occurrence.arguments = front ++ back)
    (present : again.setting? ∈ options.map Occurrence.setting?) :
    parse (front ++ again.arguments ++ back) = .misuse := by
  rw [parse, List.append_assoc]
  rcases flatMap_arguments_eq_append cut with
    ⟨before, behind, rfl, rfl, rfl⟩ | ⟨before, setting, rfl⟩
  · have whole : before.flatMap Occurrence.arguments ++
        (again.arguments ++ behind.flatMap Occurrence.arguments) =
        (before ++ again :: behind).flatMap Occurrence.arguments ++ [] := by simp
    rw [whole, parseFrom_options]
    cases taken : (before ++ again :: behind).foldlM Options.take? {} with
    | none => rfl
    | some next =>
      -- options that are all read name different settings, whatever their values are
      obtain ⟨once, _⟩ := has_of_foldlM taken
      rw [List.map_append, List.map_cons, List.nodup_middle, List.nodup_cons, ← List.map_append]
        at once
      exact absurd present once.1
  · -- the setting before the cut has lost its value
    rw [List.append_assoc, List.singleton_append, parseFrom_options]
    cases before.foldlM Options.take? {} with
    | none => rfl
    | some next => exact parseFrom_setting_option next setting again back

end Repeated

section Written

variable {l : Layout} {o : Options} {option : Occurrence} {options : List Occurrence}

theorem year?_toString (n : UInt32) : year? (toString n.toNat) = some n := by
  have written : (toString n.toNat).toList = Nat.toDigits 10 n.toNat := by simp
  have read : Number.ofDigits? 10 (Nat.toDigits 10 n.toNat) = some n.toNat :=
    Number.ofDigits?_ten_eq_some_iff.mpr
      ⟨Nat.toDigits_ne_nil, Number.areDigits_toDigits _, Nat.ofDigitChars_ten_toDigits⟩
  have digits := Number.areDigits_toDigits n.toNat
  rw [year?, written]
  split
  next negative cs signs =>
  split at signs
  · next first => exact absurd (digits '-' (first ▸ List.mem_cons_self)) (by decide)
  · next first => exact absurd (digits '+' (first ▸ List.mem_cons_self)) (by decide)
  · obtain ⟨rfl, rfl⟩ := Prod.mk.inj signs
    have small : n.toNat < UInt32.size := n.toNat_lt
    simp [read, small]

theorem exists_assign? {setting : Setting} {value : String} (layout : Layout)
    (found : setting.text? l = some value) (nonempty : value ≠ "") :
    ∃ next, setting.assign? layout value = some next ∧ next.family = layout.family ∧
      next.checkOnly = layout.checkOnly ∧
      ∀ other, Setting.text? next other =
        if other = setting then some value else Setting.text? layout other := by
  have notEmpty : value.isEmpty = false := by simpa using nonempty
  unfold Setting.assign?
  simp only [notEmpty]
  cases setting with
  | minYear =>
    obtain rfl := Option.some.inj found
    rw [year?_toString]
    refine ⟨_, rfl, rfl, rfl, fun other => ?_⟩
    cases other <;> rfl
  | _ =>
    refine ⟨_, rfl, rfl, rfl, fun other => ?_⟩
    cases other <;> rfl

/-- What has been read is as in the layout, and all else is as by default. -/
structure Options.Follows (o : Options) (l : Layout) : Prop where
  family : o.layout.family = Family.standard
  checkOnly : o.layout.checkOnly = o.checked
  given : ∀ setting ∈ o.given, setting.text? o.layout = setting.text? l
  others : ∀ setting, setting ∉ o.given → setting.text? o.layout = setting.text? {}

theorem follows_initial (l : Layout) : Options.Follows {} l where
  family := rfl
  checkOnly := rfl
  given := fun _ member => absurd member List.not_mem_nil
  others := fun _ _ => rfl

theorem Options.Follows.set {setting : Setting} {value : String} (follows : o.Follows l)
    (fresh : setting ∉ o.given) (found : setting.text? l = some value) (nonempty : value ≠ "") :
    ∃ next, o.set? setting value = some next ∧ next.Follows l := by
  obtain ⟨layout, assigned, family, checkOnly, texts⟩ := exists_assign? o.layout found nonempty
  refine ⟨_, set?_eq_some_iff.mpr ⟨fresh, layout, assigned, rfl⟩, ?_, ?_, ?_, ?_⟩
  · exact family.trans follows.family
  · exact checkOnly.trans follows.checkOnly
  · intro other member
    rw [texts]
    split
    · next same => rw [same, found]
    · next apart => exact follows.given other ((List.mem_cons.mp member).resolve_left apart)
  · intro other absent
    obtain ⟨apart, absent⟩ := not_or.mp (mt List.mem_cons.mpr absent)
    rw [texts, if_neg apart]
    exact follows.others other absent

/-- An option that tells something of the layout for the first time is read. -/
theorem Options.Follows.take (follows : o.Follows l)
    (named : ∀ setting, Setting.text? l setting ≠ some "") (fresh : ¬ o.Has option.setting?)
    (holds : option.Holds l) :
    ∃ next, o.take? option = some next ∧ next.Follows l := by
  have nonempty {setting : Setting} {value : String} (found : setting.text? l = some value) :
      value ≠ "" := by
    rintro rfl
    exact named setting found
  cases option with
  | check =>
    refine ⟨_, if_neg fresh, ?_⟩
    exact ⟨follows.family, rfl, follows.given, follows.others⟩
  | joined setting value => exact follows.set fresh holds (nonempty holds)
  | apart setting value =>
    obtain ⟨found, noHyphen⟩ := holds
    have behind : mayBeValue value = true := by simp [mayBeValue, noHyphen]
    rw [Options.take?, if_pos behind]
    exact follows.set fresh found (nonempty found)

theorem Options.Follows.foldlM (follows : o.Follows l)
    (named : ∀ setting, Setting.text? l setting ≠ some "")
    (once : (options.map Occurrence.setting?).Nodup)
    (fresh : ∀ key ∈ options.map Occurrence.setting?, ¬ o.Has key)
    (holds : ∀ option ∈ options, option.Holds l) :
    ∃ next, options.foldlM Options.take? o = some next ∧ next.Follows l := by
  induction options generalizing o with
  | nil => exact ⟨o, rfl, follows⟩
  | cons option others ih =>
    rw [List.map_cons, List.nodup_cons] at once
    rw [List.map_cons, List.forall_mem_cons] at fresh
    rw [List.forall_mem_cons] at holds
    obtain ⟨middle, taken, follows⟩ := follows.take named fresh.1 holds.1
    obtain ⟨_, has⟩ := has_of_take? taken
    have stillFresh : ∀ key ∈ others.map Occurrence.setting?, ¬ middle.Has key := by
      intro key member again
      rcases (has key).mp again with rfl | before
      · exact once.1 member
      · exact fresh.2 key member before
    obtain ⟨next, behind, follows⟩ := ih follows once.2 stillFresh holds.2
    exact ⟨next, by rw [List.foldlM_cons, taken]; exact behind, follows⟩

/-- A layout is known by its texts, its family and the check. -/
theorem eq_of_text? {a b : Layout}
    (texts : ∀ setting, Setting.text? a setting = Setting.text? b setting)
    (family : a.family = b.family) (checkOnly : a.checkOnly = b.checkOnly) : a = b := by
  have path {p q : Option Path} (same : p.map Path.text = q.map Path.text) : p = q := by
    refine Option.map_injective ?_ same
    rintro ⟨_⟩ ⟨_⟩ rfl
    rfl
  have year : a.minYear = b.minYear := by
    have same : toString a.minYear.toNat = toString b.minYear.toNat :=
      Option.some.inj (texts .minYear)
    have read := year?_toString a.minYear
    rw [same, year?_toString] at read
    exact (Option.some.inj read).symm
  have root := path (texts .root)
  have database := path (texts .database)
  have products := path (texts .products)
  have infoTable := path (texts .infoTable)
  have serialTable := path (texts .serialTable)
  have boardMap := path (texts .boardMap)
  cases a
  cases b
  simp_all

/-- Every value joined to its option, in one order for all layouts. -/
def joinedOptions (l : Layout) : List Occurrence :=
  Setting.all.filterMap (fun setting => (setting.text? l).map (Occurrence.joined setting)) ++
    if l.checkOnly then [.check] else []

theorem joined_mem_joinedOptions {setting : Setting} {value : String}
    (found : setting.text? l = some value) : .joined setting value ∈ joinedOptions l := by
  refine List.mem_append_left _ (List.mem_filterMap.mpr ⟨setting, ?_, by rw [found]; rfl⟩)
  cases setting <;> decide

theorem writes_joinedOptions (l : Layout) : Writes (joinedOptions l) l where
  once := by
    have settings : (Setting.all.filterMap fun setting =>
        ((setting.text? l).map (Occurrence.joined setting)).map Occurrence.setting?).Nodup := by
      refine List.Nodup.filterMap (fun first second key => ?_) (by decide)
      simp only [Option.map_map, Option.mem_def, Option.map_eq_some_iff]
      rintro ⟨_, _, rfl⟩ ⟨_, _, same⟩
      exact (Option.some.inj same).symm
    rw [joinedOptions, List.map_append, List.map_filterMap]
    split
    · refine settings.append (List.nodup_singleton _) ?_
      simp [Occurrence.setting?]
    · simpa using settings
  holds := by
    intro option member
    rcases List.mem_append.mp member with valued | check
    · obtain ⟨setting, _, written⟩ := List.mem_filterMap.mp valued
      obtain ⟨value, found, rfl⟩ := Option.map_eq_some_iff.mp written
      exact found
    · split at check
      · next checkOnly => exact List.mem_singleton.mp check ▸ checkOnly
      · cases check
  checked := by
    intro checkOnly
    exact List.mem_map.mpr ⟨.check, by simp [joinedOptions, checkOnly], rfl⟩
  unwritten := by
    intro setting absent
    have none : setting.text? l = none := by
      refine Option.eq_none_iff_forall_ne_some.mpr fun value found => absent ?_
      exact List.mem_map.mpr ⟨_, joined_mem_joinedOptions found, rfl⟩
    rw [none]
    -- only the year has a text whatever the layout is
    cases setting with
    | minYear => cases none
    | _ => rfl

theorem Writes.parse (standard : l.family = Family.standard)
    (named : ∀ setting, Setting.text? l setting ≠ some "") (written : Writes options l) :
    parse (options.flatMap Occurrence.arguments) = .generate l := by
  have nothing (key : Option Setting) : ¬ Options.Has {} key := by
    cases key <;> simp [Options.Has]
  obtain ⟨next, taken, follows⟩ := (follows_initial l).foldlM named written.once
    (fun key _ => nothing key) written.holds
  obtain ⟨_, _, has⟩ := has_of_foldlM taken
  simp only [nothing, or_false] at has
  have same : next.layout = l := by
    refine eq_of_text? (fun setting => ?_) (follows.family.trans standard.symm) ?_
    · by_cases given : setting ∈ next.given
      · exact follows.given setting given
      · rw [follows.others setting given]
        exact (written.unwritten setting (mt (has (some setting)).mpr given)).symm
    · rw [follows.checkOnly, Bool.eq_iff_iff]
      refine (has none).trans ⟨fun member => ?_, written.checked⟩
      obtain ⟨option, member, noSetting⟩ := List.mem_map.mp member
      cases option with
      | check => exact written.holds _ member
      | joined | apart => cases noSetting
  have whole := parseFrom_options {} options []
  rw [List.append_nil, taken] at whole
  rw [CommandLine.parse, whole, ← same]
  rfl

end Written

/-- A layout of the standard family and with no empty path can be written as arguments, and however
that is done, they are read as that layout. With an option put among them that is there already, the
arguments are misuse, and the files stay as they are. -/
theorem written_arguments_read {l : Layout} (standard : l.family = Family.standard)
    (named : ∀ setting, Setting.text? l setting ≠ some "") :
    (∃ options, Writes options l) ∧
    ∀ options, Writes options l →
      parse (options.flatMap Occurrence.arguments) = .generate l ∧
      ∀ (front back : List String) (again : Occurrence),
        options.flatMap Occurrence.arguments = front ++ back →
        again.setting? ∈ options.map Occurrence.setting? →
        ∀ t : Tree, (run t (front ++ again.arguments ++ back)).1 = t ∧
          (run t (front ++ again.arguments ++ back)).2.status = 2 := by
  refine ⟨⟨_, writes_joinedOptions l⟩, fun options written => ⟨written.parse standard named, ?_⟩⟩
  intro front back again cut present t
  rw [run, parse_repeated cut present]
  exact ⟨rfl, rfl⟩

/-- Values that look like options, with and without a value of their own. -/
def misleadingLayout : Layout :=
  { root := some ⟨"--check"⟩, products := some ⟨"--root=list.json"⟩,
    boardMap := some ⟨"root=--check"⟩, minYear := 2010, checkOnly := true }

def misleadingOptions : List Occurrence :=
  [.check, .apart .boardMap "root=--check", .joined .root "--check", .apart .minYear "2010",
    .joined .products "--root=list.json"]

theorem writes_misleadingOptions : Writes misleadingOptions misleadingLayout where
  once := by decide
  holds := by decide
  checked := fun _ => by decide
  unwritten := by
    intro setting
    cases setting <;> decide

theorem misleading_arguments_read :
    parse ["--check", "--boards-out", "root=--check", "--root=--check", "--min-year", "2010",
      "--products=--root=list.json"] = .generate misleadingLayout ∧
    (run ⟨OrderedMap.empty, []⟩ ["--check", "--boards-out", "--root=a", "root=--check",
      "--root=--check", "--min-year", "2010", "--products=--root=list.json"]).1 =
        ⟨OrderedMap.empty, []⟩ ∧
    (run ⟨OrderedMap.empty, []⟩ ["--check", "--boards-out", "--root=a", "root=--check",
      "--root=--check", "--min-year", "2010", "--products=--root=list.json"]).2.status = 2 := by
  obtain ⟨_, ways⟩ := written_arguments_read (l := misleadingLayout) rfl
    (by intro setting; cases setting <;> decide)
  obtain ⟨read, repeated⟩ := ways _ writes_misleadingOptions
  exact ⟨read, repeated ["--check", "--boards-out"] _ (.joined .root "a") rfl (by decide) _⟩

end ModelCatalog.CommandLine
