import LayerNet.Proofs.Settings.BadLines
import LayerNet.Proofs.Settings.LastValues
import LayerNet.Proofs.Text.Lines

/-!
# Settings that are written down

Settings are written down as a listing: sections, in which every key has a line of its own with its
value behind an equals sign.  Texts stand in quotation marks, which keep the blanks, equals signs,
brackets and signs of comments in them from being taken for anything else.  What is read of a
listing is what was written down, in whatever order sections and keys come.

Main definitions:

- `IsTrimmed`: lines without blanks at their ends.
- `IsQuotable`, `IsElement`: the texts that can be written down, by themselves and among others.
- `SettingsListing`: what is written down.
- `SettingsListing.Arrangement`: an order of sections and keys.
- `SettingsListing.text`: the listing.

Main results:

- `SettingsLine.ofText_assignment`: every line is read as the assignment of its key.
- `SettingsListing.read_valueText`: every value is read as what was written.
- `SettingsListing.afterLines_keys`, `SettingsListing.afterLines_sections`: what is settled after
  some lines.
- `SettingsListing.parse_text`: a listing is read back.
-/

namespace LayerNet

/-! ## Trimmed lines -/

/-- Whether a text is on one line, and begins and ends with something that is not blank. -/
structure IsTrimmed (text : String) : Prop where
  feed : '\n' ∉ text.toList
  first : ∃ c, text.toList.head? = some c ∧ Text.isBlank c = false
  last : ∃ c, text.toList.getLast? = some c ∧ Text.isBlank c = false

instance (text : String) : Decidable (IsTrimmed text) :=
  decidable_of_iff ('\n' ∉ text.toList ∧ (text.toList.head?.any fun c => !Text.isBlank c) = true ∧
      (text.toList.getLast?.any fun c => !Text.isBlank c) = true) <| by
    simp only [Option.any_eq_true, Bool.not_eq_true']
    exact ⟨fun ⟨feed, first, last⟩ => ⟨feed, first, last⟩,
      fun ⟨feed, first, last⟩ => ⟨feed, first, last⟩⟩

/-- Nothing is trimmed of a trimmed line. -/
theorem IsTrimmed.trim_eq {text : String} (h : IsTrimmed text) : Text.trim text = text := by
  have hhead : ∀ c ∈ text.toList.head?, Text.isBlank c = false := by
    rcases h.first with ⟨first, heq, hblank⟩
    rw [heq]
    rintro c ⟨⟩
    exact hblank
  have hlast : ∀ c ∈ text.toList.getLast?, Text.isBlank c = false := by
    rcases h.last with ⟨last, heq, hblank⟩
    rw [heq]
    rintro c ⟨⟩
    exact hblank
  have htrims := Text.Trims.between (List.forall_mem_nil _) (List.forall_mem_nil _) hhead hlast
  rw [List.nil_append, List.append_nil] at htrims
  rw [← String.toList_inj, SettingsLine.toList_trim]
  exact htrims.trimChars_eq

/-- A text without blanks has none at its ends, and no line feed, which is one. -/
theorem isTrimmed_of_forall {text : String} (hne : text.toList ≠ [])
    (h : ∀ c ∈ text.toList, Text.isBlank c = false) : IsTrimmed text where
  feed hmem := absurd (h '\n' hmem) (by decide)
  first := ⟨_, List.head?_eq_some_head hne, h _ (List.head_mem hne)⟩
  last := ⟨_, List.getLast?_eq_some_getLast hne, h _ (List.getLast_mem hne)⟩

/-- Between trimmed lines there may be anything that does not end the line. -/
theorem IsTrimmed.append {front middle back : String} (hfront : IsTrimmed front)
    (hmiddle : '\n' ∉ middle.toList) (hback : IsTrimmed back) :
    IsTrimmed (front ++ middle ++ back) where
  feed := by simp [hfront.feed, hmiddle, hback.feed]
  first := by
    rcases hfront.first with ⟨c, hc, hblank⟩
    exact ⟨c, by simp [hc], hblank⟩
  last := by
    rcases hback.last with ⟨c, hc, hblank⟩
    exact ⟨c, by simp [List.getLast?_append, hc], hblank⟩

/-- Trimmed lines are the lines of the text that they make. -/
theorem lines_ofLines {lines : List String} (h : ∀ line ∈ lines, IsTrimmed line) :
    Text.lines (Script.ofLines lines) = lines := by
  induction lines with
  | nil => rfl
  | cons line lines ih =>
      have hline := h line List.mem_cons_self
      have hreturn : line.toList.getLast? ≠ some '\r' := by
        rcases hline.last with ⟨c, hc, hblank⟩
        rw [hc]
        rintro ⟨⟩
        exact absurd hblank (by decide)
      have hcut : Text.linesFrom [] (Script.ofLines (line :: lines)).toList =
          line.toList :: Text.linesFrom [] (Script.ofLines lines).toList := by
        rw [Script.toList_ofLines_cons, Text.linesFrom_append_of_not_mem hline.feed,
          List.append_nil, Text.linesFrom, if_pos rfl, List.reverse_reverse,
          Text.dropReturn_of_getLast? hreturn]
      rw [Text.lines, hcut, List.map_cons, String.ofList_toList, ← Text.lines,
        ih fun other hother => h other (List.mem_cons_of_mem line hother)]

/-! ## Texts of values -/

/-- Whether a text can be told from quotation marks around it, and stays on its line. -/
def IsQuotable (text : String) : Prop :=
  '\n' ∉ text.toList ∧ text.toList.head? ≠ some '"' ∧ text.toList.getLast? ≠ some '"'

/-- Whether a text in quotation marks can be told from others beside it, with commas between
them. -/
def IsElement (text : String) : Prop :=
  text ≠ "" ∧ ',' ∉ text.toList ∧ '"' ∉ text.toList ∧ '\n' ∉ text.toList

instance (text : String) : Decidable (IsQuotable text) :=
  inferInstanceAs (Decidable (_ ∧ _))

instance (text : String) : Decidable (IsElement text) :=
  inferInstanceAs (Decidable (_ ∧ _))

/-- Without quotes and line feeds a text may be put into quotes. -/
theorem isQuotable_of_not_mem {text : String} (hfeed : '\n' ∉ text.toList)
    (hmark : '"' ∉ text.toList) :
    IsQuotable text :=
  ⟨hfeed, fun hhead => hmark (List.mem_of_mem_head? hhead),
    fun hlast => hmark (List.mem_of_mem_getLast? hlast)⟩

theorem IsElement.isQuotable {text : String} (h : IsElement text) : IsQuotable text :=
  isQuotable_of_not_mem h.2.2.2 h.2.2.1

/-- A text in quotation marks. -/
def inQuotes (text : String) : String :=
  "\"" ++ text ++ "\""

/-- A number of blanks. -/
def blanks (n : Nat) : String :=
  String.ofList (List.replicate n ' ')

/-- A text in quotation marks with blanks around; `margin` has their numbers. -/
def spaced (margin : Nat × Nat) (text : String) : String :=
  blanks margin.1 ++ inQuotes text ++ blanks margin.2

/-- Texts in quotation marks between brackets, with commas between them; `margins` has the numbers
of blanks around each. -/
def inBrackets (margins : Nat → Nat × Nat) (texts : List String) : String :=
  "[" ++ ",".intercalate (texts.mapIdx fun place text => spaced (margins place) text) ++ "]"

/-- The text of a truth value. -/
def truthText (b : Bool) : String :=
  if b then "true" else "false"

theorem toList_inQuotes (text : String) :
    (inQuotes text).toList = '"' :: (text.toList ++ ['"']) := by
  simp [inQuotes]

theorem isTrimmed_inQuotes {text : String} (h : IsQuotable text) : IsTrimmed (inQuotes text) := by
  have hmark : IsTrimmed "\"" := by decide
  exact hmark.append h.1 hmark

/-- A quotable text comes back from its quotes: the reader takes off the outer ones only. -/
theorem unquoted_inQuotes {text : String} (h : IsQuotable text) :
    unquoted (inQuotes text) = text := by
  rcases h with ⟨-, hhead, hlast⟩
  have htrims : Text.Trims (· = '"') (['"'] ++ (text.toList ++ ['"'])) text.toList := by
    refine .between (by simp) (by simp) (fun c hc => ?_) fun c hc => ?_
    · exact decide_eq_false fun heq => hhead (heq ▸ hc)
    · exact decide_eq_false fun heq => hlast (heq ▸ hc)
  rw [← String.toList_inj, unquoted, Text.trimBoth, String.toList_ofList, toList_inQuotes]
  exact htrims.trimChars_eq

/-- The blanks around a text in quotation marks are trimmed, and those inside are not. -/
theorem trim_spaced (margin : Nat × Nat) {text : String} (h : IsQuotable text) :
    Text.trim (spaced margin text) = inQuotes text := by
  have hblanks (n : Nat) : ∀ c ∈ List.replicate n ' ', Text.isBlank c = true := by
    intro c hc
    rw [List.eq_of_mem_replicate hc]
    decide
  have hchars : (spaced margin text).toList =
      List.replicate margin.1 ' ' ++ (inQuotes text).toList ++ List.replicate margin.2 ' ' := by
    simp [spaced, blanks]
  rw [← String.toList_inj, SettingsLine.toList_trim, hchars,
    Text.trimChars_append (hblanks margin.1) (hblanks margin.2), ← SettingsLine.toList_trim,
    (isTrimmed_inQuotes h).trim_eq]

theorem isBlank_of_isDigit {c : Char} (h : c.isDigit = true) : Text.isBlank c = false := by
  have hrange : 48 ≤ c.toNat ∧ c.toNat ≤ 57 := by
    simpa [Char.isDigit, UInt32.le_iff_toNat_le] using h
  simp only [Text.isBlank, Text.inRanges, Text.blankRanges, List.any_cons, List.any_nil,
    Bool.or_false, Bool.or_eq_false_iff, Bool.and_eq_false_iff, decide_eq_false_iff_not]
  omega

theorem isTrimmed_natText (n : Nat) : IsTrimmed (Decimal.natText n) := by
  have hchars : (Decimal.natText n).toList = Nat.toDigits 10 n := String.toList_ofList
  refine isTrimmed_of_forall (hchars ▸ Nat.toDigits_ne_nil) fun c hc => ?_
  rw [hchars] at hc
  exact isBlank_of_isDigit (Decimal.isDigit_of_mem_digits hc)

theorem isTrimmed_truthText (b : Bool) : IsTrimmed (truthText b) := by
  cases b <;> decide

/-- A list keeps its brackets at both ends, however many blanks stand inside. -/
theorem isTrimmed_inBrackets (margins : Nat → Nat × Nat) {texts : List String}
    (h : ∀ text ∈ texts, '\n' ∉ text.toList) : IsTrimmed (inBrackets margins texts) := by
  have hopening : IsTrimmed "[" := by decide
  have hclosing : IsTrimmed "]" := by decide
  refine hopening.append (Text.not_mem_toList_intercalate (by decide) fun piece hpiece => ?_)
    hclosing
  rcases List.mem_mapIdx.mp hpiece with ⟨place, hplace, rfl⟩
  have hfeed := h _ (List.getElem_mem hplace)
  simp [spaced, blanks, toList_inQuotes, hfeed]

/-! ### Names -/

/-- The names that are known need no care: none has a quote or a line feed. -/
theorem isQuotable_of_ofName? {name : String} {l : Loss} (h : Loss.ofName? name = some l) :
    IsQuotable name := by
  have hname : name ∈ Loss.names := by
    by_contra hnot
    rw [Loss.ofName?_eq_none_iff.mpr hnot] at h
    cases h
  have hquotable : ∀ name ∈ Loss.names, IsQuotable name := by decide
  exact hquotable name hname

/-- An alias is known in any case of its letters, so that its characters are those of a known name
up to case. -/
theorem isQuotable_of_ofAlias? {name : String} {o : Optimizer}
    (h : Optimizer.ofAlias? name = some o) :
    IsQuotable name := by
  have hname : Optimizer.lowered name ∈ Optimizer.names := by
    by_contra hnot
    rw [Optimizer.ofAlias?_eq_none_iff.mpr hnot] at h
    cases h
  -- What is no letter stays when names are lowered, and no name has a line feed or a quotation
  -- mark.
  have hstays {c : Char} (hlower : c.toLower = c)
      (hnames : ∀ name ∈ Optimizer.names, c ∉ name.toList) :
      c ∉ name.toList := by
    intro hmem
    have hlowered : c.toLower ∈ (Optimizer.lowered name).toList := by
      rw [Optimizer.lowered, String.toList_ofList]
      exact List.mem_map_of_mem hmem
    exact hnames _ hname (hlower ▸ hlowered)
  exact isQuotable_of_not_mem (hstays (by decide) (by decide)) (hstays (by decide) (by decide))

/-! ## Values that are read back -/

namespace SettingValue

/-- Values that are written out are read back by their readers; here and in the following lemmas,
one reader each. -/
theorem batchSize_natText {n : Nat} (hpos : 0 < n) (hsize : n < UInt64.size) :
    batchSize (Decimal.natText n) = .ok n := by
  have hword : Decimal.word64? (Decimal.natText n) = some n := by
    exact Decimal.word64?_eq_some_iff.mpr
      ⟨[], Decimal.digits n, by decide, Json.isDigits_digits n, String.toList_ofList,
        Nat.ofDigitChars_ten_toDigits, hsize⟩
  obtain ⟨m, rfl⟩ := Nat.exists_eq_add_of_lt hpos
  rw [batchSize, hword]
  rfl

theorem loss_inQuotes {name : String} {l : Loss} (h : Loss.ofName? name = some l) :
    loss (inQuotes name) = .ok l := by
  rw [loss, unquoted_inQuotes (isQuotable_of_ofName? h), h]

theorem optimizer_inQuotes {name : String} {o : Optimizer} (h : Optimizer.ofAlias? name = some o) :
    optimizer (inQuotes name) = .ok o := by
  rw [optimizer_eq_ok_iff, unquoted_inQuotes (isQuotable_of_ofAlias? h), h]

theorem boolean_truthText (b : Bool) : boolean (truthText b) = .ok b := by
  cases b <;> rfl

/-- The elements of a list come back, whatever blanks stand around them, since none has a comma and
none is empty. -/
theorem texts_inBrackets (margins : Nat → Nat × Nat) {calls : List String}
    (h : ∀ call ∈ calls, IsElement call) : texts (inBrackets margins calls) = .ok calls := by
  have hbrackets (inside : String) :
      SettingsLine.bracketed? ("[" ++ inside ++ "]").toList = some inside.toList :=
    SettingsLine.bracketed?_eq_some_iff.mpr (by simp)
  rw [texts, inBrackets, hbrackets]
  dsimp only
  rw [String.ofList_toList]
  by_cases hnil : calls = []
  · -- Nothing between the brackets is one empty text, which is left out.
    subst hnil
    rfl
  · have hpieces : ∀ piece ∈ calls.mapIdx fun place call => spaced (margins place) call,
        ',' ∉ piece.toList := by
      intro piece hpiece
      rcases List.mem_mapIdx.mp hpiece with ⟨place, hplace, rfl⟩
      have hcomma := (h _ (List.getElem_mem hplace)).2.1
      simp [spaced, blanks, toList_inQuotes, hcomma]
    have hread : (calls.mapIdx fun place call => spaced (margins place) call).map
        (fun item => unquoted (Text.trim item)) = calls := by
      refine List.ext_getElem (by simp) fun place hplace hplace' => ?_
      have hquotable := (h _ (List.getElem_mem hplace')).isQuotable
      rw [List.getElem_map, List.getElem_mapIdx, trim_spaced _ hquotable,
        unquoted_inQuotes hquotable]
    have hkept : (calls.filter fun item => !item.isEmpty) = calls := by
      refine List.filter_eq_self.mpr fun call hcall => ?_
      simpa using (h call hcall).1
    rw [Text.splitAtChar_intercalate rfl (by simpa using hnil) hpieces, hread, hkept]

end SettingValue

/-! ## Lines that are read back -/

namespace SettingsLine

theorem isTrimmed_name (key : SettingKey) : IsTrimmed key.name := by
  cases key <;> decide

/-- A line with the name of a key and a value behind an equals sign is read as the assignment of one
to the other, whatever is in the value. -/
theorem ofText_assignment (key : SettingKey) {value : String} (h : IsTrimmed value) :
    ofText (key.name ++ " = " ++ value) = .assignment key.name value := by
  have hname : key.name.toList.head? ≠ some '#' ∧ key.name.toList.head? ≠ some '[' ∧
      '=' ∉ key.name.toList ∧
      unquoted (Text.trim (String.ofList (key.name.toList ++ [' ']))) = key.name := by
    cases key <;> decide +kernel
  rcases hname with ⟨hmark, hbracket, hequals, hkey⟩
  rcases (isTrimmed_name key).first with ⟨first, hfirst, -⟩
  have htrim := (@IsTrimmed.append _ " = " _ (isTrimmed_name key) (by decide) h).trim_eq
  have hhead : (key.name ++ " = " ++ value).toList.head? = key.name.toList.head? := by simp [hfirst]
  have hline : (key.name ++ " = " ++ value).toList =
      (key.name.toList ++ [' ']) ++ '=' :: (' ' :: value.toList) := by
    simp
  have hcomment : ¬ IsComment (key.name ++ " = " ++ value) := by
    rw [← head?_toList_trim_iff, htrim, hhead]
    exact hmark
  have hheader (name : List Char) : ¬ Encloses (key.name ++ " = " ++ value) name := by
    rw [← toList_trim_eq_brackets_iff, htrim]
    intro heq
    rw [heq] at hhead
    exact hbracket hhead.symm
  have hvalue : Text.trim (String.ofList (' ' :: value.toList)) = value := by
    have hblank : ∀ c ∈ [' '], Text.isBlank c = true := List.forall_mem_singleton.mpr (by decide)
    have happend := Text.trimChars_append hblank (List.forall_mem_nil _) value.toList
    rw [List.append_nil, List.singleton_append] at happend
    rw [← String.toList_inj, toList_trim, String.toList_ofList, happend, ← toList_trim, h.trim_eq]
  have htold := Says.assignment hcomment hheader hline (by simpa using hequals)
  rw [hkey, hvalue] at htold
  exact htold.ofText_eq

/-- The names of the sections. -/
def sectionNames : List String :=
  ["runtime", "compile", "decompile"]

/-- The header of a section is a line without blanks around it. -/
theorem isTrimmed_header {name : String} (h : name ∈ sectionNames) :
    IsTrimmed ("[" ++ name ++ "]") := by
  have hopening : IsTrimmed "[" := by decide
  have hclosing : IsTrimmed "]" := by decide
  have hfeed : ∀ name ∈ sectionNames, '\n' ∉ name.toList := by decide
  exact hopening.append (hfeed name h) hclosing

theorem ofText_header {name : String} (h : name ∈ sectionNames) :
    ofText ("[" ++ name ++ "]") = .sectionStart name := by
  have hheader :
      ∀ name ∈ sectionNames, ofText ("[" ++ name ++ "]") = .sectionStart name := by decide
  exact hheader name h

end SettingsLine

/-! ## Listings -/

/-- The keys that are written down: all but the learning rate. -/
abbrev ListedKey :=
  {key : SettingKey // key ≠ .learningRate}

/-- What is written down. -/
structure SettingsListing where
  interpreter : {text : String // IsQuotable text}
  saveDirectory : {text : String // IsQuotable text}
  infoDirectory : {text : String // IsQuotable text}
  functionMarker : {text : String // IsQuotable text}
  internalCalls : List {text : String // IsElement text}
  batchSize : {n : Nat // 0 < n ∧ n < UInt64.size}
  lossName : String
  loss : Loss
  ofName?_lossName : Loss.ofName? lossName = some loss
  optimizerName : String
  optimizer : Optimizer
  ofAlias?_optimizerName : Optimizer.ofAlias? optimizerName = some optimizer
  cpuInference : Bool
  includeMainGraph : Bool

namespace SettingsListing

variable (l : SettingsListing) (margins : Nat → Nat × Nat)

/-- The internal calls that are written down. -/
def calls : List String :=
  l.internalCalls.map Subtype.val

/-- The settings that are written down, for a directory. -/
def settings (root : String) : Settings where
  root := root
  interpreter := l.interpreter
  loss := l.loss
  optimizer := l.optimizer
  batchSize := l.batchSize
  saveDirectory := Path.join root l.saveDirectory
  infoDirectory := some (Path.join root l.infoDirectory)
  cpuInference := l.cpuInference
  reconstruction :=
    { functionMarker := l.functionMarker
      internalCalls := l.calls
      includeMainGraph := l.includeMainGraph }

/-- The text of the value of a key. -/
def valueText : ListedKey → String
  | ⟨.interpreter, _⟩ => inQuotes l.interpreter
  | ⟨.batchSize, _⟩ => Decimal.natText l.batchSize
  | ⟨.loss, _⟩ => inQuotes l.lossName
  | ⟨.optimizer, _⟩ => inQuotes l.optimizerName
  | ⟨.learningRate, h⟩ => absurd rfl h
  | ⟨.saveDirectory, _⟩ => inQuotes l.saveDirectory
  | ⟨.infoDirectory, _⟩ => inQuotes l.infoDirectory
  | ⟨.cpuInference, _⟩ => truthText l.cpuInference
  | ⟨.functionMarker, _⟩ => inQuotes l.functionMarker
  | ⟨.internalCalls, _⟩ => inBrackets margins l.calls
  | ⟨.includeMainGraph, _⟩ => truthText l.includeMainGraph

/-- All calls that are listed may stand in a list. -/
theorem isElement_of_mem_calls : ∀ call ∈ l.calls, IsElement call := by
  intro call hcall
  rcases List.mem_map.mp hcall with ⟨⟨_, helement⟩, -, rfl⟩
  exact helement

/-- The value of any key is written without blanks around it. -/
theorem isTrimmed_valueText (key : ListedKey) : IsTrimmed (l.valueText margins key) := by
  rcases key with ⟨key, hkey⟩
  cases key with
  | interpreter => exact isTrimmed_inQuotes l.interpreter.2
  | batchSize => exact isTrimmed_natText l.batchSize
  | loss => exact isTrimmed_inQuotes (isQuotable_of_ofName? l.ofName?_lossName)
  | optimizer => exact isTrimmed_inQuotes (isQuotable_of_ofAlias? l.ofAlias?_optimizerName)
  | learningRate => exact absurd rfl hkey
  | saveDirectory => exact isTrimmed_inQuotes l.saveDirectory.2
  | infoDirectory => exact isTrimmed_inQuotes l.infoDirectory.2
  | cpuInference => exact isTrimmed_truthText l.cpuInference
  | functionMarker => exact isTrimmed_inQuotes l.functionMarker.2
  | internalCalls =>
      exact isTrimmed_inBrackets margins fun call hcall =>
        (l.isElement_of_mem_calls call hcall).2.2.2
  | includeMainGraph => exact isTrimmed_truthText l.includeMainGraph

/-- Every value is read as what was written. -/
theorem read_valueText (root : String) (key : ListedKey) :
    key.1.read root (l.valueText margins key) = .ok (key.1.get (l.settings root)) := by
  have htext (text : {text : String // IsQuotable text}) : unquoted (inQuotes text) = text.1 :=
    unquoted_inQuotes text.2
  rcases key with ⟨key, hkey⟩
  cases key with
  | interpreter => exact congrArg Except.ok (htext l.interpreter)
  | batchSize =>
      change SettingValue.batchSize (Decimal.natText l.batchSize) = .ok l.batchSize.1
      exact SettingValue.batchSize_natText l.batchSize.2.1 l.batchSize.2.2
  | loss =>
      change SettingValue.loss (inQuotes l.lossName) = .ok l.loss
      exact SettingValue.loss_inQuotes l.ofName?_lossName
  | optimizer =>
      change SettingValue.optimizer (inQuotes l.optimizerName) = .ok l.optimizer
      exact SettingValue.optimizer_inQuotes l.ofAlias?_optimizerName
  | learningRate => exact absurd rfl hkey
  | saveDirectory =>
      exact congrArg (fun text => Except.ok (Path.join root text)) (htext l.saveDirectory)
  | infoDirectory =>
      exact congrArg (fun text => Except.ok (some (Path.join root text))) (htext l.infoDirectory)
  | cpuInference =>
      change SettingValue.boolean (truthText l.cpuInference) = .ok l.cpuInference
      exact SettingValue.boolean_truthText l.cpuInference
  | functionMarker => exact congrArg Except.ok (htext l.functionMarker)
  | internalCalls =>
      change SettingValue.texts (inBrackets margins l.calls) = .ok l.calls
      exact SettingValue.texts_inBrackets margins l.isElement_of_mem_calls
  | includeMainGraph =>
      change SettingValue.boolean (truthText l.includeMainGraph) = .ok l.includeMainGraph
      exact SettingValue.boolean_truthText l.includeMainGraph

/-- The line of a key. -/
def line (key : ListedKey) : String :=
  key.1.name ++ " = " ++ l.valueText margins key

theorem isTrimmed_line (key : ListedKey) : IsTrimmed (l.line margins key) :=
  (SettingsLine.isTrimmed_name key).append (by decide) (l.isTrimmed_valueText margins key)

/-! ### Arrangements -/

/-- An order of sections, which may be begun several times, and of the keys in them; every key is
there. -/
structure Arrangement where
  sections : List (String × List ListedKey)
  /-- the numbers of blanks around the internal calls -/
  margins : Nat → Nat × Nat
  known : ∀ entry ∈ sections, entry.1 ∈ SettingsLine.sectionNames
  belongs : ∀ entry ∈ sections, ∀ key ∈ entry.2, key.1.sectionName = entry.1
  complete : ∀ key : ListedKey, ∃ entry ∈ sections, key ∈ entry.2

/-- The lines of a section. -/
def sectionLines (entry : String × List ListedKey) : List String :=
  ("[" ++ entry.1 ++ "]") :: entry.2.map (l.line margins)

/-- The listing in an arrangement. -/
def text (a : Arrangement) : String :=
  Script.ofLines (a.sections.flatMap (l.sectionLines a.margins))

/-! ### What is settled -/

/-- Settings with the values that others have for some keys. -/
def fill (s values : Settings) (keys : List ListedKey) : Settings :=
  keys.foldl (fun s key => key.1.set s (key.1.get values)) s

/-- Keys do not change where paths start from. -/
theorem root_fill (s values : Settings) (keys : List ListedKey) :
    (fill s values keys).root = s.root := by
  induction keys generalizing s with
  | nil => rfl
  | cons key keys ih =>
      have hfill :
          fill s values (key :: keys) = fill (key.1.set s (key.1.get values)) values keys := rfl
      rw [hfill, ih, SettingKey.root_set]

/-- Filling in keys changes these and no others. -/
theorem get_fill (s values : Settings) (keys : List ListedKey) (key : SettingKey) :
    key.get (fill s values keys) =
      if key ∈ keys.map Subtype.val then key.get values else key.get s := by
  induction keys generalizing s with
  | nil => simp [fill]
  | cons first keys ih =>
      have hfill : fill s values (first :: keys) =
          fill (first.1.set s (first.1.get values)) values keys := rfl
      rw [hfill, ih, List.map_cons]
      by_cases hlater : key ∈ keys.map Subtype.val
      · rw [if_pos hlater, if_pos (List.mem_cons_of_mem _ hlater)]
      · rw [if_neg hlater]
        by_cases hfirst : key = first.1
        · subst hfirst
          rw [if_pos List.mem_cons_self, SettingKey.get_set_self]
        · have hnot : key ∉ first.1 :: keys.map Subtype.val := by
            simpa [hfirst] using hlater
          rw [if_neg hnot, SettingKey.get_set_of_ne hfirst]

/-- The lines of keys fill the fields of these keys. -/
theorem afterLines_keys {name : String} {keys : List ListedKey}
    (h : ∀ key ∈ keys, key.1.sectionName = name) (s : Settings) (n : Nat) (rest : List String) :
    s.afterLines name n (keys.map (l.line margins) ++ rest) =
      (fill s (l.settings s.root) keys).afterLines name (n + keys.length) rest := by
  induction keys generalizing s n with
  | nil => rfl
  | cons key keys ih =>
      rcases List.forall_mem_cons.mp h with ⟨hkey, hkeys⟩
      have hline : s.afterLine name (SettingsLine.ofText (l.line margins key)) =
          .ok (key.1.set s (key.1.get (l.settings s.root))) := by
        rw [line, SettingsLine.ofText_assignment key (l.isTrimmed_valueText margins key),
          Settings.afterLine, ← hkey, Settings.assign_key, read_valueText]
        rfl
      have hname : (SettingsLine.ofText (l.line margins key)).sectionName? = none := by
        rw [line, SettingsLine.ofText_assignment key (l.isTrimmed_valueText margins key)]
        rfl
      rw [List.map_cons, List.cons_append, Settings.afterLines_cons, hline, hname]
      dsimp only [Option.getD_none]
      rw [ih hkeys, SettingKey.root_set, List.length_cons, Nat.add_assoc, Nat.add_comm 1]
      rfl

/-- The lines of sections fill the fields of all their keys. -/
theorem afterLines_sections {sections : List (String × List ListedKey)}
    (hknown : ∀ entry ∈ sections, entry.1 ∈ SettingsLine.sectionNames)
    (hbelongs : ∀ entry ∈ sections, ∀ key ∈ entry.2, key.1.sectionName = entry.1)
    (s : Settings) (start : String) (n : Nat) :
    s.afterLines start n (sections.flatMap (l.sectionLines margins)) =
      .ok (fill s (l.settings s.root) (sections.flatMap Prod.snd)) := by
  induction sections generalizing s start n with
  | nil => rfl
  | cons entry sections ih =>
      rcases List.forall_mem_cons.mp hknown with ⟨hentry, hsections⟩
      rcases List.forall_mem_cons.mp hbelongs with ⟨hkeys, hlater⟩
      rw [List.flatMap_cons, sectionLines, List.cons_append, Settings.afterLines_cons,
        SettingsLine.ofText_header hentry]
      dsimp only [Settings.afterLine, SettingsLine.sectionName?, Option.getD_some]
      rw [l.afterLines_keys margins hkeys, ih hsections hlater, root_fill, List.flatMap_cons,
        fill, fill, fill, List.foldl_append]

/-- What was written down is read back, in whatever order it was written. -/
theorem parse_text (a : Arrangement) (root : String) :
    Settings.parse (l.text a) root = .ok (l.settings root) := by
  have htrimmed : ∀ line ∈ a.sections.flatMap (l.sectionLines a.margins), IsTrimmed line := by
    intro line hline
    rcases List.mem_flatMap.mp hline with ⟨entry, hentry, hline⟩
    rcases List.mem_cons.mp hline with rfl | hline
    · exact SettingsLine.isTrimmed_header (a.known entry hentry)
    · rcases List.mem_map.mp hline with ⟨key, -, rfl⟩
      exact l.isTrimmed_line a.margins key
  have hread := l.afterLines_sections a.margins a.known a.belongs (Settings.rooted root) "" 1
  have hfilled : fill (Settings.rooted root) (l.settings root) (a.sections.flatMap Prod.snd) =
      l.settings root := by
    refine SettingKey.eq_of_get_eq (root_fill _ _ _) fun key => ?_
    rw [get_fill]
    split <;> rename_i hlisted
    · rfl
    · -- Only the learning rate is not listed, and there is none on either side.
      by_cases hkey : key = .learningRate
      · subst hkey
        rfl
      · rcases a.complete ⟨key, hkey⟩ with ⟨entry, hentry, hmem⟩
        exact absurd (List.mem_map.mpr ⟨_, List.mem_flatMap.mpr ⟨entry, hentry, hmem⟩, rfl⟩) hlisted
  refine Settings.parse_eq_ok_iff.mpr ⟨l.settings root, ?_, rfl⟩
  rw [text, lines_ofLines htrimmed, hread]
  exact congrArg Except.ok hfilled

/-- The sections and keys in their usual order, with a blank behind every comma. -/
def Arrangement.usual : Arrangement where
  sections :=
    [("runtime", [⟨.interpreter, by decide⟩]),
     ("compile",
      [⟨.batchSize, by decide⟩, ⟨.loss, by decide⟩, ⟨.optimizer, by decide⟩,
        ⟨.saveDirectory, by decide⟩, ⟨.infoDirectory, by decide⟩, ⟨.cpuInference, by decide⟩]),
     ("decompile",
      [⟨.functionMarker, by decide⟩, ⟨.internalCalls, by decide⟩, ⟨.includeMainGraph, by decide⟩])]
  margins place := if place = 0 then (0, 0) else (1, 0)
  known := by decide
  belongs := by decide
  complete := by
    rintro ⟨key, hkey⟩
    cases key <;> first | exact absurd rfl hkey | simp

/-- Settings with signs in their texts that mean something outside of quotation marks. -/
def signs : SettingsListing where
  interpreter := ⟨" python3 # [x] = 1 ", by decide⟩
  saveDirectory := ⟨"[out]", by decide⟩
  infoDirectory := ⟨"# = \" =", by decide⟩
  functionMarker := ⟨"", by decide⟩
  internalCalls := [⟨" [a] = #", by decide⟩, ⟨" ", by decide⟩]
  batchSize := ⟨18446744073709551615, by decide⟩
  lossName := "mean_squared_error"
  loss := .meanSquaredError
  ofName?_lossName := rfl
  optimizerName := "SGD"
  optimizer := .sgd
  ofAlias?_optimizerName := rfl
  cpuInference := true
  includeMainGraph := false

/-- These settings as they are written down. -/
def signsText : String :=
  Script.ofLines
    ["[runtime]",
     "interpreter = \" python3 # [x] = 1 \"",
     "[compile]",
     "batch_size = 18446744073709551615",
     "loss = \"mean_squared_error\"",
     "optimizer = \"SGD\"",
     "save_dir = \"[out]\"",
     "model_info_dir = \"# = \" =\"",
     "cpu_inference = true",
     "[decompile]",
     "function_marker = \"\"",
     "internal_call_prefixes = [\" [a] = #\", \" \"]",
     "include_main_graph = false"]

/-- Every value is read back, also those that hold the signs of sections, lists and comments. -/
theorem parse_signsText : Settings.parse signsText "home" = .ok (signs.settings "home") := by
  have htext : signsText = signs.text .usual := by decide +kernel
  rw [htext]
  exact parse_text signs .usual "home"

end SettingsListing
end LayerNet
