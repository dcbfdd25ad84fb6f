import LayerNet.Proofs.Text.LastLine
import LayerNet.Proofs.Text.Search
import LayerNet.Proofs.Text.Trimming
import LayerNet.Settings.Reader

/-!
# What lines of settings say

A line of settings is blank, or a comment, or begins a section, or assigns a value to a key, or
cannot be read.  Blanks around it make no difference, nor does the carriage return of a line ending.
The section in force at a line is the one that the last header before it begins.

Main definitions:

- `SettingsLine.Says`: what a line says, told by its characters.
- `Settings.said`: what the lines of a text say.
- `Settings.afterLine`: the settings after one line.
- `Settings.sectionFrom`: the section in force behind some lines.

Main results:

- `SettingsLine.says_iff`: the reader finds what a line says.
- `Settings.said_prefix`: a line feed and more text behind a text leave what its lines say.
- `Settings.afterLines_cons`: lines are read one by one.
-/

namespace LayerNet

/-! ## Lines -/

namespace SettingsLine

/-- Whether there are only blanks in a line. -/
def IsBlank (line : String) : Prop :=
  ∀ c ∈ line.toList, Text.isBlank c = true

/-- Whether the first character of a line that is not blank is that of comments. -/
def IsComment (line : String) : Prop :=
  ∃ front back, line.toList = front ++ '#' :: back ∧ ∀ c ∈ front, Text.isBlank c = true

/-- Whether a line consists of brackets with the given characters inside, and blanks around. -/
def Encloses (line : String) (name : List Char) : Prop :=
  ∃ front back, line.toList = front ++ ('[' :: (name ++ [']']) ++ back) ∧
    (∀ c ∈ front, Text.isBlank c = true) ∧ ∀ c ∈ back, Text.isBlank c = true

/-- What a line says.  A comment may say anything behind its first character, and what is in
brackets may hold an equals sign, so that these come before assignments. -/
inductive Says (line : String) : SettingsLine → Prop where
  | blank (h : IsBlank line) : Says line .nothing
  | comment (h : IsComment line) : Says line .nothing
  | header {name : List Char} (h : Encloses line name) :
      Says line (.sectionStart (Text.trim (String.ofList name)))
  | assignment {key value : List Char} (hcomment : ¬ IsComment line)
      (hheader : ∀ name, ¬ Encloses line name) (hline : line.toList = key ++ '=' :: value)
      (hfirst : '=' ∉ key) :
      Says line (.assignment (unquoted (Text.trim (String.ofList key)))
        (Text.trim (String.ofList value)))
  | unreadable (hblank : ¬ IsBlank line) (hcomment : ¬ IsComment line)
      (hheader : ∀ name, ¬ Encloses line name) (hnone : '=' ∉ line.toList) :
      Says line (.unreadable (Text.trim line))

variable {line : String} {cs key value name : List Char}

/-! ### Trimmed lines -/

theorem toList_trim (line : String) :
    (Text.trim line).toList = Text.trimChars Text.isBlank line.toList :=
  String.toList_ofList

theorem toList_trim_eq_nil_iff : (Text.trim line).toList = [] ↔ IsBlank line := by
  rw [toList_trim]
  constructor
  · intro hnil
    have htrims := Text.trimChars_eq_iff.mp hnil
    generalize hcs : line.toList = cs at htrims
    cases htrims with
    | between hfront hback =>
        intro c hc
        rw [hcs, List.nil_append] at hc
        exact List.forall_mem_append.mpr ⟨hfront, hback⟩ c hc
  · intro hblank
    rw [Text.trimChars, List.dropWhile_eq_nil_iff.mpr hblank]
    rfl

theorem head?_toList_trim_iff : (Text.trim line).toList.head? = some '#' ↔ IsComment line := by
  rw [toList_trim]
  constructor
  · intro hhead
    have htrims := Text.trims_trimChars Text.isBlank line.toList
    generalize Text.trimChars Text.isBlank line.toList = kept at hhead htrims
    rcases List.head?_eq_some_iff.mp hhead with ⟨rest, rfl⟩
    generalize hcs : line.toList = cs at htrims
    cases htrims with
    | @between front _ back hfront => exact ⟨front, rest ++ back, hcs, hfront⟩
  · rintro ⟨front, back, hline, hfront⟩
    rw [hline, Text.trimChars_append_cons (by decide), List.dropWhile_eq_nil_iff.mpr hfront]
    rfl

/-- A line begins a section if brackets enclose all of it but the blanks around. -/
theorem toList_trim_eq_brackets_iff :
    (Text.trim line).toList = '[' :: (name ++ [']']) ↔ Encloses line name := by
  rw [toList_trim]
  constructor
  · intro hbrackets
    have htrims := Text.trimChars_eq_iff.mp hbrackets
    generalize hcs : line.toList = cs at htrims
    cases htrims with
    | @between front _ back hfront hback => exact ⟨front, back, hcs, hfront, hback⟩
  · rintro ⟨front, back, hline, hfront, hback⟩
    have hlast : ('[' :: (name ++ [']'])).getLast? = some ']' :=
      List.getLast?_concat (l := '[' :: name)
    rw [hline]
    refine (Text.Trims.between hfront hback ?_ ?_).trimChars_eq
    · rintro c ⟨⟩
      decide
    · rw [hlast]
      rintro c ⟨⟩
      decide

/-- What stands between brackets may have brackets itself. -/
theorem bracketed?_eq_some_iff : bracketed? cs = some name ↔ cs = '[' :: (name ++ [']']) := by
  constructor
  · intro h
    unfold bracketed? at h
    split at h
    · split at h <;> rename_i hlast
      · rw [← Option.some.inj h, List.dropLast_append_getLast? ']' hlast]
      · cases h
    · cases h
  · rintro rfl
    simp [bracketed?]

/-! ### The reader -/

theorem ofText_of_isBlank (h : IsBlank line) : ofText line = .nothing := by
  rw [ofText, ofTrimmed, toList_trim_eq_nil_iff.mpr h]
  rfl

theorem ofText_of_isComment (h : IsComment line) : ofText line = .nothing := by
  rw [ofText, ofTrimmed, head?_toList_trim_iff.mpr h]
  simp

theorem ofText_of_encloses (h : Encloses line name) :
    ofText line = .sectionStart (Text.trim (String.ofList name)) := by
  rw [ofText, ofTrimmed, toList_trim_eq_brackets_iff.mpr h]
  simp [bracketed?]

/-- A line with something on it that is neither a comment nor a header is cut at the first equals
sign. -/
theorem ofText_of_other (hblank : ¬ IsBlank line) (hcomment : ¬ IsComment line)
    (hheader : ∀ name, ¬ Encloses line name) :
    ofText line =
      match Text.breakOn ['='] (Text.trim line).toList with
      | some (key, value) =>
        .assignment (unquoted (Text.trim (String.ofList key))) (Text.trim (String.ofList value))
      | none => .unreadable (Text.trim line) := by
  have hempty : (Text.trim line).toList.isEmpty = false := by
    rw [List.isEmpty_eq_false_iff]
    exact fun hnil => hblank (toList_trim_eq_nil_iff.mp hnil)
  have hhash : ((Text.trim line).toList.head? == some '#') = false := by
    rw [beq_eq_false_iff_ne]
    exact fun hhead => hcomment (head?_toList_trim_iff.mp hhead)
  have hbrackets : bracketed? (Text.trim line).toList = none := by
    rw [Option.eq_none_iff_forall_ne_some]
    intro name hname
    exact hheader name (toList_trim_eq_brackets_iff.mp (bracketed?_eq_some_iff.mp hname))
  rw [ofText, ofTrimmed, hempty, hhash, hbrackets]
  rfl

/-- Blanks that were cut off before do not matter when the text is trimmed. -/
theorem trim_ofList_dropWhile (cs : List Char) :
    Text.trim (String.ofList (cs.dropWhile Text.isBlank)) = Text.trim (String.ofList cs) := by
  rw [← String.toList_inj, toList_trim, toList_trim, String.toList_ofList, String.toList_ofList,
    Text.trimChars_dropWhile]

theorem trim_ofList_trimEndChars (cs : List Char) :
    Text.trim (String.ofList (Text.trimEndChars Text.isBlank cs)) =
      Text.trim (String.ofList cs) := by
  rw [← String.toList_inj, toList_trim, toList_trim, String.toList_ofList, String.toList_ofList,
    Text.trimChars_trimEndChars]

/-- The reader agrees with each rule of the relation. -/
theorem Says.ofText_eq {l : SettingsLine} (h : Says line l) : ofText line = l := by
  cases h with
  | blank h => exact ofText_of_isBlank h
  | comment h => exact ofText_of_isComment h
  | header h => exact ofText_of_encloses h
  | @assignment key value hcomment hheader hline hfirst =>
      have hblank : ¬ IsBlank line := by
        intro hall
        have hequals := hall '=' (hline ▸ List.mem_append_right key List.mem_cons_self)
        exact absurd hequals (by decide)
      have hkey : '=' ∉ key.dropWhile Text.isBlank := fun hmem =>
        hfirst ((List.dropWhile_suffix _).subset hmem)
      rw [ofText_of_other hblank hcomment hheader, toList_trim, hline,
        Text.trimChars_append_cons (by decide), Text.breakOn_singleton hkey]
      dsimp only
      rw [trim_ofList_dropWhile, trim_ofList_trimEndChars]
  | unreadable hblank hcomment hheader hnone =>
      have htrimmed : '=' ∉ (Text.trim line).toList := by
        rw [toList_trim]
        exact fun hmem => hnone ((Text.trimChars_infix _ _).subset hmem)
      rw [ofText_of_other hblank hcomment hheader, Text.breakOn_singleton_eq_none htrimmed]

/-- Every line says something. -/
theorem says_ofText (line : String) : Says line (ofText line) := by
  by_cases hblank : IsBlank line
  · rw [ofText_of_isBlank hblank]
    exact .blank hblank
  · by_cases hcomment : IsComment line
    · rw [ofText_of_isComment hcomment]
      exact .comment hcomment
    · by_cases hheader : ∃ name, Encloses line name
      · rcases hheader with ⟨name, hname⟩
        rw [ofText_of_encloses hname]
        exact .header hname
      · rw [not_exists] at hheader
        by_cases hequals : '=' ∈ line.toList
        · rcases List.eq_append_cons_of_mem hequals with ⟨key, value, hline, hfirst⟩
          have htold := Says.assignment hcomment hheader hline hfirst
          rw [htold.ofText_eq]
          exact htold
        · have htold := Says.unreadable hblank hcomment hheader hequals
          rw [htold.ofText_eq]
          exact htold

/-- The reader finds what a line says. -/
theorem says_iff {l : SettingsLine} : Says line l ↔ ofText line = l :=
  ⟨Says.ofText_eq, fun h => h ▸ says_ofText line⟩

/-- What a line says does not depend on how it is closed. -/
theorem ofText_dropReturn (cs : List Char) :
    ofText (String.ofList (Text.dropReturn cs)) = ofText (String.ofList cs) := by
  by_cases hlast : cs.getLast? = some '\r'
  · have heq := List.dropLast_append_getLast? '\r' hlast
    have hback : ∀ c ∈ ['\r'], Text.isBlank c = true := List.forall_mem_singleton.mpr (by decide)
    have htrim := Text.trimChars_append (List.forall_mem_nil _) hback cs.dropLast
    rw [← heq, Text.dropReturn_append_return, ofText, ofText]
    congr 1
    rw [← String.toList_inj, toList_trim, toList_trim, String.toList_ofList, String.toList_ofList]
    exact htrim.symm
  · rw [Text.dropReturn_of_getLast? hlast]

/-- The name of the section that a line begins, if it does. -/
def sectionName? : SettingsLine → Option String
  | sectionStart name => some name
  | _ => none

end SettingsLine

/-! ## Texts -/

namespace Settings

/-- What the lines of a text say. -/
def said (text : String) : List SettingsLine :=
  (Text.lines text).map SettingsLine.ofText

/-- A line says something at its place. -/
theorem getElem?_said_iff {text : String} {place : Nat} {l : SettingsLine} :
    (said text)[place]? = some l ↔
      ∃ line, (Text.lines text)[place]? = some line ∧ SettingsLine.Says line l := by
  simp only [said, List.getElem?_map, Option.map_eq_some_iff, SettingsLine.says_iff]

/-- A line feed closes the last line and changes none. -/
theorem ofText_linesFrom_feed (pending front : List Char) :
    (Text.linesFrom pending front).map (fun cs => SettingsLine.ofText (String.ofList cs)) <+:
      (Text.linesFrom pending (front ++ ['\n'])).map
        fun cs => SettingsLine.ofText (String.ofList cs) := by
  induction front generalizing pending with
  | nil =>
      rw [List.nil_append, Text.linesFrom, Text.linesFrom, if_pos rfl]
      split
      · exact List.nil_prefix
      · have hnil : Text.linesFrom [] [] = [] := rfl
        rw [hnil, List.map_singleton, List.map_singleton, SettingsLine.ofText_dropReturn]
  | cons c front ih =>
      rw [List.cons_append, Text.linesFrom, Text.linesFrom]
      split
      · rw [List.map_cons, List.map_cons]
        exact List.cons_prefix_cons.mpr ⟨rfl, ih []⟩
      · exact ih (c :: pending)

/-- What the lines of a text say stays if it is closed by a line feed and more lines follow. -/
theorem said_prefix (text rest : String) : said text <+: said (text ++ "\n" ++ rest) := by
  have hchars : (text ++ "\n" ++ rest).toList = text.toList ++ '\n' :: rest.toList := by simp
  have hmap (t : String) : said t = (Text.linesFrom [] t.toList).map
      fun cs => SettingsLine.ofText (String.ofList cs) := by
    rw [said, Text.lines, List.map_map]
    rfl
  rw [hmap, hmap, hchars, Text.linesFrom_append_feed, List.map_append]
  exact (ofText_linesFrom_feed [] text.toList).trans (List.prefix_append _ _)

/-! ## Line by line -/

/-- The settings after a line where `sectionName` is in force. -/
def afterLine (s : Settings) (sectionName : String) : SettingsLine → Except SettingFault Settings
  | .nothing | .sectionStart _ => .ok s
  | .assignment key value => s.assign sectionName key value
  | .unreadable text => .error (.notAssignment text)

/-- Lines are read one by one, each in the section that the one before it leaves in force. -/
theorem afterLines_cons (s : Settings) (start : String) (n : Nat) (line : String)
    (lines : List String) : s.afterLines start n (line :: lines) =
      match s.afterLine start (SettingsLine.ofText line) with
      | .error fault => .error ⟨n, fault⟩
      | .ok s' =>
          s'.afterLines ((SettingsLine.ofText line).sectionName?.getD start) (n + 1) lines := by
  rw [afterLines]
  cases SettingsLine.ofText line <;> rfl

/-! ## Sections -/

/-- The section in force behind some lines: the one that the last header among them begins, and if
there is none the one that was in force before them. -/
def sectionFrom (start : String) (lines : List SettingsLine) : String :=
  ((lines.filterMap SettingsLine.sectionName?).getLast?).getD start

/-- The section in force behind a line is the one it begins, or the one before it. -/
theorem sectionFrom_cons (start : String) (l : SettingsLine) (lines : List SettingsLine) :
    sectionFrom start (l :: lines) = sectionFrom (l.sectionName?.getD start) lines := by
  cases hname : l.sectionName? with
  | none => rw [sectionFrom, List.filterMap_cons_none hname, Option.getD_none, sectionFrom]
  | some name =>
      rw [sectionFrom, List.filterMap_cons_some hname, List.getLast?_cons, Option.getD_some,
        Option.getD_some, sectionFrom]

/-- The section in force at a place of a text; no section is in force at the first line. -/
def sectionAt (text : String) (place : Nat) : String :=
  sectionFrom "" ((said text).take place)

end Settings
end LayerNet
