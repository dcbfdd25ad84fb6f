import Mathlib.Data.Nat.Find
import LayerNet.Proofs.Decimal.Numerals
import LayerNet.Proofs.Settings.Keys
import LayerNet.Proofs.Settings.Lines

/-!
# Bad lines

A line of settings is bad if it says nothing that can be read, or if it assigns to a known key a
value that the key rejects.  That depends on the line and on the section in force there, and on
nothing that other lines have settled.  The error of a text is about its first bad line.

Main definitions:

- `SettingKey.Rejects`: the values that keys reject, and what is said of them.
- `BadLine`: the bad lines of a section.
- `Settings.BadAt`: the bad lines of a text.

Main results:

- `SettingKey.rejects_iff`: the readers of keys refuse the values that these reject.
- `Settings.afterLine_eq_error_iff`: the lines that are refused are the bad ones.
- `Settings.afterLines_eq_error_iff`: where reading stops.
- `Settings.parse_stops_at_first_bad`: the errors of texts.
-/

namespace LayerNet

/-! ## Rejected values -/

/-- The names of the losses. -/
def Loss.names : List String :=
  ["binary_crossentropy", "sparse_categorical_crossentropy", "mse", "mean_squared_error"]

theorem Loss.ofName?_eq_none_iff {s : String} : ofName? s = none ↔ s ∉ names := by
  unfold ofName? names
  split_ifs <;> simp_all

/-- The names of the optimizers in lower case. -/
def Optimizer.names : List String :=
  ["sgd", "adam", "adamax", "nadam", "rmsprop", "adagrad", "adadelta", "ftrl"]

theorem Optimizer.ofAlias?_eq_none_iff {s : String} : ofAlias? s = none ↔ lowered s ∉ names :=
  Table.find?_eq_none_iff

/-- The values that keys reject, and what is said of them.  The other keys reject nothing. -/
inductive SettingKey.Rejects (value : String) : SettingKey → SettingFault → Prop where
  | batchSize (h : ∀ n, ¬ Decimal.IsWord value n) : Rejects value .batchSize (.batchSize value)
  | batchSizeZero (h : Decimal.IsWord value 0) : Rejects value .batchSize .batchSizeZero
  | loss (h : unquoted value ∉ Loss.names) : Rejects value .loss (.loss (unquoted value))
  | optimizer (h : Optimizer.lowered (unquoted value) ∉ Optimizer.names) :
      Rejects value .optimizer (.optimizer (unquoted value))
  | learningRate (h : ¬ Decimal.IsFloat value) : Rejects value .learningRate (.learningRate value)
  | cpuInference (h : value ∉ ["true", "false"]) : Rejects value .cpuInference (.notBoolean value)
  | includeMainGraph (h : value ∉ ["true", "false"]) :
      Rejects value .includeMainGraph (.notBoolean value)
  | internalCalls (h : ∀ inside, value.toList ≠ '[' :: (inside ++ [']'])) :
      Rejects value .internalCalls (.notArray value)

namespace SettingValue

variable {value : String} {fault : SettingFault}

/-- A batch size fails for two reasons with a message each. -/
theorem batchSize_eq_error_iff : batchSize value = .error fault ↔
    (∀ n, ¬ Decimal.IsWord value n) ∧ fault = .batchSize value ∨
      Decimal.IsWord value 0 ∧ fault = .batchSizeZero := by
  simp only [← Decimal.word64?_eq_some_iff]
  rw [batchSize]
  split <;> rename_i hword
  · simp [hword, eq_comm]
  · simp [hword, eq_comm]
  · rename_i n hn
    simp [hword, show n ≠ 0 from hn]

theorem loss_eq_error_iff : loss value = .error fault ↔
    unquoted value ∉ Loss.names ∧ fault = .loss (unquoted value) := by
  rw [← Loss.ofName?_eq_none_iff, loss]
  split <;> rename_i hname <;> simp [hname, eq_comm]

theorem optimizer_eq_error_iff : optimizer value = .error fault ↔
    Optimizer.lowered (unquoted value) ∉ Optimizer.names ∧ fault = .optimizer (unquoted value) := by
  rw [← Optimizer.ofAlias?_eq_none_iff, optimizer]
  split <;> rename_i hname <;> simp [hname, eq_comm]

theorem learningRate_eq_error_iff : learningRate value = .error fault ↔
    ¬ Decimal.IsFloat value ∧ fault = .learningRate value := by
  rw [← Decimal.isSome_float?_iff, learningRate]
  split <;> rename_i hfloat <;> simp [hfloat, eq_comm]

theorem boolean_eq_error_iff : boolean value = .error fault ↔
    value ∉ ["true", "false"] ∧ fault = .notBoolean value := by
  rw [boolean]
  split_ifs <;> simp_all [eq_comm]

/-- A list fails only for its brackets: whatever stands between them can be split. -/
theorem texts_eq_error_iff : texts value = .error fault ↔
    (∀ inside, value.toList ≠ '[' :: (inside ++ [']'])) ∧ fault = .notArray value := by
  simp only [ne_eq, ← SettingsLine.bracketed?_eq_some_iff]
  rw [texts]
  split <;> rename_i hbrackets <;> simp [hbrackets, eq_comm]

end SettingValue

namespace SettingKey

variable {key : SettingKey} {root value : String} {fault : SettingFault}

/-- One lemma for the reader of each key, put together by key. -/
theorem rejects_of_read_eq_error (h : key.read root value = .error fault) :
    key.Rejects value fault := by
  cases key with
  | batchSize =>
      change SettingValue.batchSize value = .error fault at h
      rcases SettingValue.batchSize_eq_error_iff.mp h with ⟨hnone, rfl⟩ | ⟨hzero, rfl⟩
      · exact .batchSize hnone
      · exact .batchSizeZero hzero
  | loss =>
      change SettingValue.loss value = .error fault at h
      rcases SettingValue.loss_eq_error_iff.mp h with ⟨hname, rfl⟩
      exact .loss hname
  | optimizer =>
      change SettingValue.optimizer value = .error fault at h
      rcases SettingValue.optimizer_eq_error_iff.mp h with ⟨hname, rfl⟩
      exact .optimizer hname
  | learningRate =>
      change (SettingValue.learningRate value).map some = .error fault at h
      rcases SettingValue.learningRate_eq_error_iff.mp (map_eq_error_iff.mp h) with ⟨hfloat, rfl⟩
      exact .learningRate hfloat
  | cpuInference =>
      change SettingValue.boolean value = .error fault at h
      rcases SettingValue.boolean_eq_error_iff.mp h with ⟨hvalue, rfl⟩
      exact .cpuInference hvalue
  | includeMainGraph =>
      change SettingValue.boolean value = .error fault at h
      rcases SettingValue.boolean_eq_error_iff.mp h with ⟨hvalue, rfl⟩
      exact .includeMainGraph hvalue
  | internalCalls =>
      change SettingValue.texts value = .error fault at h
      rcases SettingValue.texts_eq_error_iff.mp h with ⟨hvalue, rfl⟩
      exact .internalCalls hvalue
  | _ => cases h

theorem Rejects.read_eq_error (h : key.Rejects value fault) (root : String) :
    key.read root value = .error fault := by
  cases h with
  | batchSize h =>
      change SettingValue.batchSize value = _
      exact SettingValue.batchSize_eq_error_iff.mpr (Or.inl ⟨h, rfl⟩)
  | batchSizeZero h =>
      change SettingValue.batchSize value = _
      exact SettingValue.batchSize_eq_error_iff.mpr (Or.inr ⟨h, rfl⟩)
  | loss h =>
      change SettingValue.loss value = _
      exact SettingValue.loss_eq_error_iff.mpr ⟨h, rfl⟩
  | optimizer h =>
      change SettingValue.optimizer value = _
      exact SettingValue.optimizer_eq_error_iff.mpr ⟨h, rfl⟩
  | learningRate h =>
      change (SettingValue.learningRate value).map some = _
      exact map_eq_error_iff.mpr (SettingValue.learningRate_eq_error_iff.mpr ⟨h, rfl⟩)
  | cpuInference h =>
      change SettingValue.boolean value = _
      exact SettingValue.boolean_eq_error_iff.mpr ⟨h, rfl⟩
  | includeMainGraph h =>
      change SettingValue.boolean value = _
      exact SettingValue.boolean_eq_error_iff.mpr ⟨h, rfl⟩
  | internalCalls h =>
      change SettingValue.texts value = _
      exact SettingValue.texts_eq_error_iff.mpr ⟨h, rfl⟩

/-- The readers of keys refuse the values that these reject, in whatever directory. -/
theorem rejects_iff : key.read root value = .error fault ↔ key.Rejects value fault :=
  ⟨rejects_of_read_eq_error, fun h => h.read_eq_error root⟩

end SettingKey

/-! ## Bad lines -/

/-- The lines that are bad where the section `sectionName` is in force, and what is said of them. -/
inductive BadLine (sectionName line : String) : SettingFault → Prop where
  | unreadable {text : String} (h : SettingsLine.Says line (.unreadable text)) :
      BadLine sectionName line (.notAssignment text)
  | rejected {key : SettingKey} {value : String} {fault : SettingFault}
      (h : SettingsLine.Says line (.assignment key.name value))
      (hsection : key.sectionName = sectionName) (hvalue : key.Rejects value fault) :
      BadLine sectionName line fault

/-- What makes a line bad is what it says. -/
theorem BadLine.of_ofText_eq {sectionName line line' : String} {fault : SettingFault}
    (h : BadLine sectionName line fault)
    (hsame : SettingsLine.ofText line' = SettingsLine.ofText line) :
    BadLine sectionName line' fault := by
  have hline {l : SettingsLine} (hl : SettingsLine.Says line l) : SettingsLine.Says line' l :=
    SettingsLine.says_iff.mpr (hsame.trans hl.ofText_eq)
  cases h with
  | unreadable h => exact .unreadable (hline h)
  | rejected h hsection hvalue => exact .rejected (hline h) hsection hvalue

namespace Settings

variable {s : Settings} {start line text root : String} {n place : Nat} {lines : List String}
  {fault : SettingFault} {e : SettingError}

/-- A line is refused exactly if it is bad, whatever was settled before. -/
theorem afterLine_eq_error_iff :
    s.afterLine start (SettingsLine.ofText line) = .error fault ↔ BadLine start line fault := by
  constructor
  · intro h
    have htold := SettingsLine.says_ofText line
    generalize SettingsLine.ofText line = l at h htold
    cases l with
    | nothing => cases h
    | sectionStart name => cases h
    | unreadable text =>
        cases h
        exact .unreadable htold
    | assignment name value =>
        rcases assign_eq_error_iff.mp h with ⟨key, hsection, rfl, hread⟩
        exact .rejected htold hsection (SettingKey.rejects_iff.mp hread)
  · intro h
    cases h with
    | unreadable h =>
        rw [h.ofText_eq]
        rfl
    | @rejected key value _ h hsection hvalue =>
        rw [h.ofText_eq]
        exact assign_eq_error_iff.mpr ⟨key, hsection, rfl, SettingKey.rejects_iff.mpr hvalue⟩

/-! ## Where reading stops -/

/-- Whether the line at a place is bad, in the section in force there, and what is said of it;
`start` is the section in force before the lines. -/
def BadFrom (start : String) (lines : List String) (place : Nat) (fault : SettingFault) : Prop :=
  ∃ line, lines[place]? = some line ∧
    BadLine (sectionFrom start ((lines.map SettingsLine.ofText).take place)) line fault

/-- The first line is bad in the section that is in force before it. -/
theorem badFrom_zero : BadFrom start (line :: lines) 0 fault ↔ BadLine start line fault := by
  constructor
  · rintro ⟨_, ⟨⟩, h⟩
    exact h
  · exact fun h => ⟨line, rfl, h⟩

/-- A later line is bad in the section that is in force behind the first one. -/
theorem badFrom_succ : BadFrom start (line :: lines) (place + 1) fault ↔
    BadFrom ((SettingsLine.ofText line).sectionName?.getD start) lines place fault := by
  rw [BadFrom, BadFrom, List.map_cons, List.take_succ_cons, sectionFrom_cons,
    List.getElem?_cons_succ]

/-- Reading stops at the first bad line, whatever was settled before. -/
theorem afterLines_eq_error_iff : s.afterLines start n lines = .error e ↔
    ∃ place, BadFrom start lines place e.fault ∧ e.line = n + place ∧
      ∀ earlier < place, ∀ fault, ¬ BadFrom start lines earlier fault := by
  -- What was settled differs from line to line, so the induction is over all settings; badness does
  -- not see them, which is why the right side names none.
  induction lines generalizing s start n with
  | nil => exact iff_of_false nofun fun ⟨_, ⟨_, hline, _⟩, _⟩ => nomatch hline
  | cons line lines ih =>
      rw [afterLines_cons]
      cases hline : s.afterLine start (SettingsLine.ofText line) with
      | error fault =>
          have hbad : BadLine start line fault := afterLine_eq_error_iff.mp hline
          constructor
          · intro h
            cases h
            exact ⟨0, badFrom_zero.mpr hbad, rfl, nofun⟩
          · rintro ⟨place, h, heq, hfirst⟩
            cases place with
            | zero =>
                have hsame := hline.symm.trans (afterLine_eq_error_iff.mpr (badFrom_zero.mp h))
                rw [Except.error.inj hsame, ← heq.trans n.add_zero]
            | succ place => exact absurd (badFrom_zero.mpr hbad) (hfirst 0 place.succ_pos fault)
      | ok s' =>
          have hgood (fault : SettingFault) : ¬ BadLine start line fault := by
            intro hbad
            rw [afterLine_eq_error_iff.mpr hbad] at hline
            cases hline
          dsimp only
          rw [ih]
          constructor
          · rintro ⟨place, h, heq, hfirst⟩
            refine ⟨place + 1, badFrom_succ.mpr h, by omega, fun earlier hearlier fault h => ?_⟩
            cases earlier with
            | zero => exact hgood fault (badFrom_zero.mp h)
            | succ earlier =>
                exact hfirst earlier (Nat.lt_of_succ_lt_succ hearlier) fault (badFrom_succ.mp h)
          · rintro ⟨place, h, heq, hfirst⟩
            cases place with
            | zero => exact absurd (badFrom_zero.mp h) (hgood _)
            | succ place =>
                refine ⟨place, badFrom_succ.mp h, by omega, fun earlier hearlier fault h => ?_⟩
                exact hfirst (earlier + 1) (Nat.succ_lt_succ hearlier) fault (badFrom_succ.mpr h)

/-! ## Texts -/

/-- Whether the line at a place of a text is bad, and what is said of it. -/
def BadAt (text : String) (place : Nat) (fault : SettingFault) : Prop :=
  ∃ line, (Text.lines text)[place]? = some line ∧ BadLine (sectionAt text place) line fault

/-- The error of a text has the number of the first bad line, and is about it. -/
theorem parse_eq_error_iff : parse text root = .error e ↔
    ∃ place, BadAt text place e.fault ∧ e.line = place + 1 ∧
      ∀ earlier < place, ∀ fault, ¬ BadAt text earlier fault := by
  rw [parse, map_eq_error_iff, afterLines_eq_error_iff]
  simp only [Nat.add_comm 1]
  rfl

/-- A text has an error exactly if it has a bad line. -/
theorem exists_parse_eq_error_iff :
    (∃ e, parse text root = .error e) ↔ ∃ place fault, BadAt text place fault := by
  constructor
  · rintro ⟨e, he⟩
    rcases parse_eq_error_iff.mp he with ⟨place, h, -⟩
    exact ⟨place, e.fault, h⟩
  · intro h
    classical
    rcases Nat.find_spec h with ⟨fault, hfault⟩
    refine ⟨⟨Nat.find h + 1, fault⟩, parse_eq_error_iff.mpr ⟨Nat.find h, hfault, rfl, ?_⟩⟩
    exact fun earlier hearlier other hother => Nat.find_min h hearlier ⟨other, hother⟩

/-- Whether a line is bad depends on what is said up to it. -/
theorem BadAt.of_said {text' : String} (h : BadAt text place fault)
    (hsaid : (said text').take (place + 1) = (said text).take (place + 1)) :
    BadAt text' place fault := by
  rcases h with ⟨line, hline, hbad⟩
  have hsame : (said text')[place]? = (said text)[place]? := by
    rw [← List.getElem?_take_of_lt place.lt_succ_self, hsaid,
      List.getElem?_take_of_lt place.lt_succ_self]
  have hsection : sectionAt text' place = sectionAt text place := by
    have htake := congrArg (List.take place) hsaid
    rw [List.take_take, List.take_take, Nat.min_eq_left place.le_succ] at htake
    rw [sectionAt, sectionAt, htake]
  have htold : (said text)[place]? = some (SettingsLine.ofText line) :=
    getElem?_said_iff.mpr ⟨line, hline, SettingsLine.says_ofText line⟩
  rcases getElem?_said_iff.mp (hsame.trans htold) with ⟨line', hline', hl'⟩
  exact ⟨line', hline', hsection ▸ hbad.of_ofText_eq hl'.ofText_eq⟩

/-- Texts that say the same up to the line of an error have it in common, in whatever
directories. -/
theorem parse_eq_error_of_said {text' : String} (h : parse text root = .error e)
    (hsaid : (said text').take e.line = (said text).take e.line) (root' : String) :
    parse text' root' = .error e := by
  rcases parse_eq_error_iff.mp h with ⟨place, hbad, hline, hfirst⟩
  have hupTo (earlier : Nat) (hearlier : earlier < e.line) :
      (said text').take (earlier + 1) = (said text).take (earlier + 1) := by
    have htake := congrArg (List.take (earlier + 1)) hsaid
    rw [List.take_take, List.take_take, Nat.min_eq_left hearlier] at htake
    exact htake
  refine parse_eq_error_iff.mpr
    ⟨place, hbad.of_said (hupTo place (by omega)), hline, fun earlier hearlier fault h => ?_⟩
  exact hfirst earlier hearlier fault (h.of_said (hupTo earlier (by omega)).symm)

/-- The line of an error is one of the text. -/
theorem line_le_of_parse_eq_error (h : parse text root = .error e) :
    e.line ≤ (said text).length := by
  rcases parse_eq_error_iff.mp h with ⟨place, ⟨line, hline, -⟩, heq, -⟩
  rw [heq, said, List.length_map]
  exact (List.getElem?_eq_some_iff.mp hline).1

/-- A text has an error exactly if it has a bad line, and the error has the number of the first one.
Nothing that follows this line makes a difference. -/
theorem parse_stops_at_first_bad (text root : String) :
    (∀ e, parse text root = .error e ↔ ∃ place, BadAt text place e.fault ∧ e.line = place + 1 ∧
      ∀ earlier < place, ∀ fault, ¬ BadAt text earlier fault) ∧
    ((∃ e, parse text root = .error e) ↔ ∃ place fault, BadAt text place fault) ∧
    ∀ e, parse text root = .error e →
      (∀ text' root', (Text.lines text').take e.line = (Text.lines text).take e.line →
        parse text' root' = .error e) ∧
      ∀ rest, parse (text ++ "\n" ++ rest) root = .error e := by
  refine ⟨fun e => parse_eq_error_iff, exists_parse_eq_error_iff, fun e h => ⟨?_, ?_⟩⟩
  · intro text' root' hlines
    refine parse_eq_error_of_said h ?_ root'
    rw [said, said, ← List.map_take, ← List.map_take, hlines]
  · intro rest
    refine parse_eq_error_of_said h ?_ root
    rcases said_prefix text rest with ⟨behind, hbehind⟩
    rw [← hbehind, List.take_append_of_le_length (line_le_of_parse_eq_error h)]

/-- A text that is closed by carriage returns, the fourth line of which is the first bad one. -/
def badBatchSize : String :=
  "# 0\r\n[compile]\r\n\r\nbatch_size = 0\r\nloss = hinge"

/-- The batch size of zero in the fourth line is reported whatever follows. -/
theorem parse_stops_at_first_bad_batchSize :
    parse badBatchSize "." = .error ⟨4, .batchSizeZero⟩ ∧ BadAt badBatchSize 3 .batchSizeZero ∧
      ∀ rest, parse (badBatchSize ++ "\n" ++ rest) "." = .error ⟨4, .batchSizeZero⟩ := by
  have herror : parse badBatchSize "." = .error ⟨4, .batchSizeZero⟩ := by
    have hread : (parse badBatchSize ".").map (fun _ => ()) = .error ⟨4, .batchSizeZero⟩ := by
      decide +kernel
    exact map_eq_error_iff.mp hread
  rcases parse_stops_at_first_bad badBatchSize "." with ⟨hfirst, -, hrest⟩
  rcases (hfirst _).mp herror with ⟨place, hbad, hline, -⟩
  obtain rfl : 3 = place := Nat.succ.inj hline
  exact ⟨herror, hbad, (hrest _ herror).2⟩

end Settings
end LayerNet
