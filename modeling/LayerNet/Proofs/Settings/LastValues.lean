import LayerNet.Proofs.Settings.Keys
import LayerNet.Proofs.Settings.Lines

/-!
# Settings as the last values

What a text settles under a key is what the last value says that it gives to the key, and what holds
where nothing is settled if it gives none.  So it does not matter in what order keys and sections
come, how often a section is begun, or what else stands between the lines.  The learning rate is
given to the optimizer when all lines were read, and not before, so that these two do not depend on
their order either.

Main definitions:

- `Settings.values`: the values that a text gives to a key, in order.
- `SettingKey.inForce`: what the last of them says.

Main results:

- `Settings.takes_afterLines`: what is found under a key after some lines.
- `Settings.parse_of_values`: the settings of a text told by its last values.
-/

namespace LayerNet

/-! ## Values -/

/-- The value that a line gives to a key where `sectionName` is in force. -/
def SettingsLine.value? (key : SettingKey) (sectionName : String) : SettingsLine → Option String
  | .assignment name text =>
    if key.sectionName = sectionName ∧ key.name = name then some text else none
  | _ => none

namespace Settings

/-- The values that lines give to a key, in order; `start` is the section in force before them. -/
def valuesFrom (key : SettingKey) (start : String) (lines : List SettingsLine) : List String :=
  (List.range lines.length).filterMap fun place =>
    lines[place]?.bind fun l => l.value? key (sectionFrom start (lines.take place))

/-- The values that a text gives to a key, in order. -/
def values (text : String) (key : SettingKey) : List String :=
  valuesFrom key "" (said text)

theorem valuesFrom_cons (key : SettingKey) (start : String) (l : SettingsLine)
    (lines : List SettingsLine) :
    valuesFrom key start (l :: lines) =
      (l.value? key start).toList ++ valuesFrom key (l.sectionName?.getD start) lines := by
  have hrest : (List.range lines.length).filterMap
      ((fun place => ((l :: lines)[place]?).bind fun l' =>
        l'.value? key (sectionFrom start ((l :: lines).take place))) ∘ Nat.succ) =
      valuesFrom key (l.sectionName?.getD start) lines := by
    refine List.filterMap_congr fun place _ => ?_
    rw [Function.comp_apply, List.getElem?_cons_succ, List.take_succ_cons, sectionFrom_cons]
  rw [valuesFrom, List.length_cons, List.range_succ_eq_map, List.filterMap_cons,
    List.filterMap_map, hrest]
  have hfirst : sectionFrom start ((l :: lines).take 0) = start := rfl
  rw [List.getElem?_cons_zero, Option.bind_some, hfirst]
  cases l.value? key start <;> rfl

/-- The last value is that of the later lines, if they give one. -/
theorem getLast?_valuesFrom_cons (key : SettingKey) (start : String) (l : SettingsLine)
    (lines : List SettingsLine) :
    (valuesFrom key start (l :: lines)).getLast? =
      (valuesFrom key (l.sectionName?.getD start) lines).getLast?.or (l.value? key start) := by
  rw [valuesFrom_cons, List.getLast?_append]
  cases l.value? key start <;> rfl

/-! ## What is taken over -/

/-- Whether later settings have for a key what is read of a text, or, without a text, what the
settings before had. -/
def Takes (key : SettingKey) (before : Settings) : Option String → Settings → Prop
  | some text, after => key.read before.root text = .ok (key.get after)
  | none, after => key.get after = key.get before

variable {key : SettingKey} {s s' middle : Settings}

/-- What is taken over later replaces what was taken over before. -/
theorem Takes.or {first second : Option String} (h : Takes key s first middle)
    (hroot : middle.root = s.root) (hlater : Takes key middle second s') :
    Takes key s (second.or first) s' := by
  cases second with
  | some text =>
      rw [Takes, hroot] at hlater
      exact hlater
  | none =>
      rw [Takes] at hlater
      cases first with
      | some text =>
          rw [Option.none_or, Takes, hlater]
          exact h
      | none => exact hlater.trans h

/-- An assignment that is accepted changes what is found under its own key, and only there. -/
theorem takes_assign {sectionName name text : String} (h : s.assign sectionName name text = .ok s')
    (key : SettingKey) : s'.root = s.root ∧
      Takes key s ((SettingsLine.assignment name text).value? key sectionName) s' := by
  rw [SettingsLine.value?]
  rcases assign_eq_ok h with ⟨other, value, rfl, rfl, hread, rfl⟩ | ⟨hunknown, rfl⟩
  · refine ⟨SettingKey.root_set s other value, ?_⟩
    by_cases hkey : key = other
    · subst hkey
      rw [if_pos ⟨rfl, rfl⟩, Takes, SettingKey.get_set_self]
      exact hread
    · have hnames : ¬ (key.sectionName = other.sectionName ∧ key.name = other.name) :=
        fun heq => hkey (SettingKey.name_injective heq.2)
      rw [if_neg hnames, Takes, SettingKey.get_set_of_ne hkey]
  · rw [if_neg (hunknown key)]
    exact ⟨rfl, rfl⟩

/-- A line that is accepted leaves under a key what it gives to it, if it does. -/
theorem takes_afterLine {start : String} {l : SettingsLine} (h : s.afterLine start l = .ok s')
    (key : SettingKey) : s'.root = s.root ∧ Takes key s (l.value? key start) s' := by
  cases l with
  | nothing =>
      cases h
      exact ⟨rfl, rfl⟩
  | sectionStart name =>
      cases h
      exact ⟨rfl, rfl⟩
  | assignment name text => exact takes_assign h key
  | unreadable text => cases h

/-- Lines that are accepted leave under a key what the last value says that they give to it. -/
theorem takes_afterLines {start : String} {n : Nat} {lines : List String}
    (h : s.afterLines start n lines = .ok s') (key : SettingKey) : s'.root = s.root ∧
      Takes key s (valuesFrom key start (lines.map SettingsLine.ofText)).getLast? s' := by
  -- The values of the later lines come last in the list, and `Takes.or` lets them win.
  induction lines generalizing s start n with
  | nil =>
      cases h
      exact ⟨rfl, rfl⟩
  | cons line lines ih =>
      rw [List.map_cons, getLast?_valuesFrom_cons]
      rw [afterLines_cons] at h
      cases hline : s.afterLine start (SettingsLine.ofText line) with
      | error fault =>
          rw [hline] at h
          cases h
      | ok middle =>
          rw [hline] at h
          rcases takes_afterLine hline key with ⟨hroot, hfirst⟩
          rcases ih h with ⟨hroot', hlater⟩
          exact ⟨hroot'.trans hroot, hfirst.or hroot hlater⟩

theorem parse_eq_ok_iff {text root : String} :
    parse text root = .ok s ↔ ∃ read, (rooted root).afterLines "" 1 (Text.lines text) = .ok read ∧
      s = { read with optimizer := read.withLearningRate read.optimizer } := by
  rw [parse, map_eq_ok_iff]
  simp only [eq_comm]

end Settings

/-- What is in force for a key: what the last value says that a text gives to it, and what holds
where nothing is settled if it gives none. -/
def SettingKey.inForce (root text : String) (key : SettingKey) : Except SettingFault key.Value :=
  match (Settings.values text key).getLast? with
  | some value => key.read root value
  | none => .ok (key.get (Settings.rooted root))

namespace Settings

variable {text root : String} {key : SettingKey} {s : Settings}

theorem inForce_of_afterLines {read : Settings}
    (h : (rooted root).afterLines "" 1 (Text.lines text) = .ok read) (key : SettingKey) :
    key.inForce root text = .ok (key.get read) := by
  have htakes := (takes_afterLines h key).2
  rw [SettingKey.inForce, values, said]
  cases hlast : (valuesFrom key "" ((Text.lines text).map SettingsLine.ofText)).getLast? with
  | some value =>
      rw [hlast] at htakes
      exact htakes
  | none =>
      rw [hlast, Takes] at htakes
      rw [htakes]

/-- Under every key but that of the optimizer the settings of a text have what is in force.  The
optimizer is the one in force, with the learning rate in force if there is one. -/
theorem inForce_of_parse (h : parse text root = .ok s) : s.root = root ∧
    (∀ key : SettingKey, key ≠ .optimizer → key.inForce root text = .ok (key.get s)) ∧
    ∃ o, SettingKey.optimizer.inForce root text = .ok o ∧ s.optimizer = s.withLearningRate o := by
  rcases parse_eq_ok_iff.mp h with ⟨read, hread, rfl⟩
  refine ⟨(takes_afterLines hread .loss).1, fun key hkey => ?_, read.optimizer,
    inForce_of_afterLines hread .optimizer, rfl⟩
  have hset := SettingKey.get_set_of_ne hkey read (read.withLearningRate read.optimizer)
  rw [inForce_of_afterLines hread key, ← hset]
  rfl

/-- What is in force for a key depends on the last value only. -/
theorem inForce_congr {text' : String}
    (h : (values text' key).getLast? = (values text key).getLast?) :
    key.inForce root text' = key.inForce root text := by
  rw [SettingKey.inForce, SettingKey.inForce, h]

/-- Texts that are accepted say the same if the last values that they give to every key are the
same. -/
theorem eq_of_values {text' : String} {s' : Settings} (h : parse text root = .ok s)
    (h' : parse text' root = .ok s')
    (hvalues : ∀ key, (values text' key).getLast? = (values text key).getLast?) : s' = s := by
  rcases inForce_of_parse h with ⟨hroot, hkeys, o, hinForce, hoptimizer⟩
  rcases inForce_of_parse h' with ⟨hroot', hkeys', o', hinForce', hoptimizer'⟩
  have hrest (key : SettingKey) (hkey : key ≠ .optimizer) : key.get s' = key.get s := by
    have hsame := hkeys' key hkey
    rw [inForce_congr (hvalues key), hkeys key hkey] at hsame
    exact (Except.ok.inj hsame).symm
  refine SettingKey.eq_of_get_eq (hroot'.trans hroot.symm) fun key => ?_
  by_cases hkey : key = .optimizer
  · subst hkey
    have ho : o' = o := by
      rw [inForce_congr (hvalues .optimizer), hinForce] at hinForce'
      exact (Except.ok.inj hinForce').symm
    have hrate : s'.learningRate = s.learningRate := hrest .learningRate (by decide)
    have hwith : s'.withLearningRate o' = s.withLearningRate o := by
      simp only [withLearningRate, ho, hrate]
    exact hoptimizer'.trans (hwith.trans hoptimizer.symm)
  · exact hrest key hkey

/-- If a text gives a value to the optimizer and one to the learning rate, then its settings have
the optimizer of the last name with the last learning rate. -/
theorem optimizer_of_values {name rateText : String} (h : parse text root = .ok s)
    (hname : (values text .optimizer).getLast? = some name)
    (hrateText : (values text .learningRate).getLast? = some rateText) :
    ∃ o rate, Optimizer.ofAlias? (unquoted name) = some o ∧ Decimal.float? rateText = some rate ∧
      s.learningRate = some rate ∧ s.optimizer = { o with learningRate := rate } := by
  rcases inForce_of_parse h with ⟨-, hkeys, o, hinForce, hoptimizer⟩
  have hrate := hkeys .learningRate (by decide)
  rw [SettingKey.inForce, hrateText] at hrate
  rw [SettingKey.inForce, hname] at hinForce
  change (SettingValue.learningRate rateText).map some = .ok s.learningRate at hrate
  change SettingValue.optimizer name = .ok o at hinForce
  cases halias : Optimizer.ofAlias? (unquoted name) with
  | none =>
      rw [SettingValue.optimizer, halias] at hinForce
      cases hinForce
  | some other =>
      cases hfloat : Decimal.float? rateText with
      | none =>
          rw [SettingValue.learningRate, hfloat] at hrate
          cases hrate
      | some rate =>
          rw [SettingValue.optimizer, halias] at hinForce
          rw [SettingValue.learningRate, hfloat] at hrate
          have hsettled : s.learningRate = some rate := (Except.ok.inj hrate).symm
          refine ⟨other, rate, rfl, rfl, hsettled, ?_⟩
          rw [hoptimizer, Except.ok.inj hinForce]
          simp only [withLearningRate, hsettled]

/-- Texts that are accepted say the same if the last values that they give to every key are the
same.  A learning rate is in force with the optimizer wherever the two are given. -/
theorem parse_of_values (h : parse text root = .ok s) :
    (∀ text' s', parse text' root = .ok s' →
      (∀ key, (values text' key).getLast? = (values text key).getLast?) → s' = s) ∧
    ∀ name rateText, (values text .optimizer).getLast? = some name →
      (values text .learningRate).getLast? = some rateText →
      ∃ o rate, Optimizer.ofAlias? (unquoted name) = some o ∧ Decimal.float? rateText = some rate ∧
        s.learningRate = some rate ∧ s.optimizer = { o with learningRate := rate } :=
  ⟨fun _ _ h' hvalues => eq_of_values h h' hvalues,
    fun _ _ hname hrateText => optimizer_of_values h hname hrateText⟩

/-- A text with the learning rate before the optimizer. -/
def rateFirst : String :=
  "[compile]\nlearning_rate=0.3\noptimizer=\"sgd\""

/-- A text with the learning rate behind the optimizer, which is given twice, in a section that is
begun twice, with a key in quotation marks and another key that is not known. -/
def rateLast : String :=
  "[compile]\noptimizer=adam\n\n[x]\nk=1 # y\n[ compile ]\r\n \"optimizer\" = \"sgd\"\nlearning_rate=0.3"

theorem said_rateFirst : said rateFirst =
    [.sectionStart "compile", .assignment "learning_rate" "0.3",
      .assignment "optimizer" "\"sgd\""] := by
  decide +kernel

theorem said_rateLast : said rateLast =
    [.sectionStart "compile", .assignment "optimizer" "adam", .nothing, .sectionStart "x",
      .assignment "k" "1 # y", .sectionStart "compile", .assignment "optimizer" "\"sgd\"",
      .assignment "learning_rate" "0.3"] := by
  decide +kernel

theorem parse_of_values_rateFirst :
    ∃ s s', parse rateFirst "." = .ok s ∧ parse rateLast "." = .ok s' ∧
    s' = s ∧ ∃ o rate, Optimizer.ofAlias? "sgd" = some o ∧ Decimal.float? "0.3" = some rate ∧
      s.optimizer = { o with learningRate := rate } := by
  have hfirst : (parse rateFirst ".").isOk = true := by decide +kernel
  have hlast : (parse rateLast ".").isOk = true := by decide +kernel
  rcases exists_eq_ok_of_isOk hfirst with ⟨s, hs⟩
  rcases exists_eq_ok_of_isOk hlast with ⟨s', hs'⟩
  rcases parse_of_values hs with ⟨hsame, hrate⟩
  have hvalues (key : SettingKey) :
      (values rateLast key).getLast? = (values rateFirst key).getLast? := by
    rw [values, values, said_rateFirst, said_rateLast]
    cases key <;> decide
  have hname : (values rateFirst .optimizer).getLast? = some "\"sgd\"" := by
    rw [values, said_rateFirst]
    decide
  have hrateText : (values rateFirst .learningRate).getLast? = some "0.3" := by
    rw [values, said_rateFirst]
    decide
  have hunquoted : unquoted "\"sgd\"" = "sgd" := by decide +kernel
  rcases hrate _ _ hname hrateText with ⟨o, rate, ho, hfloat, -, hoptimizer⟩
  exact ⟨s, s', hs, hs', hsame _ s' hs' hvalues, o, rate, hunquoted ▸ ho, hfloat, hoptimizer⟩

end Settings
end LayerNet
