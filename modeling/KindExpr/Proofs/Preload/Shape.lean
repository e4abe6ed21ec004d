import Mathlib.Data.List.Forall2
import KindExpr.Preload.Basic
import KindExpr.Proofs.Outcome

/-!
# The shape of a list of expressions

A document is a list of expressions if it is null, or a list each of whose
items describes an entry: a text, or a mapping with a text for the
expression. The placeholders of a mapping may be absent or a list of texts,
or something that stands for none.

What stands for none is a parameter of the shape. The documented shape takes null
for it; what is accepted takes everything that counts as false. A document of
another shape is refused for its first item that describes no entry, and the
message names the index of that item.
-/

namespace KindExpr
namespace PreloadEntry

/-! ## The shape -/

section Shape

variable (StandsForNone : Yaml.Datum → Prop)

/-- Whether what is given for the placeholders of an item gives some texts. -/
inductive GivesTexts : Option Yaml.Datum → List Text → Prop where
  | absent : GivesTexts none []
  | texts (texts : List Text) : GivesTexts (some (.list (texts.map .text))) texts
  | ignored {given : Yaml.Datum} (standsForNone : StandsForNone given) :
      GivesTexts (some given) []

/-- Whether an item of a document describes an entry. -/
inductive Describes : Yaml.Datum → PreloadEntry → Prop where
  | text (expression : Text) : Describes (.text expression) ⟨expression, []⟩
  | mapping {entries : List (Yaml.Datum × Yaml.Datum)} {expression : Text}
        {texts : List Text}
      (hasExpression : Yaml.Datum.find? entries "expression" = some (.text expression))
      (givesTexts : GivesTexts StandsForNone
        (Yaml.Datum.find? entries "placeholders") texts) :
      Describes (.mapping entries) ⟨expression, texts⟩

/-- Whether a document lists some entries. -/
inductive Lists : Yaml.Datum → List PreloadEntry → Prop where
  | null : Lists .null []
  | items {items : List Yaml.Datum} {entries : List PreloadEntry}
      (describe : List.Forall₂ (Describes StandsForNone) items entries) :
      Lists (.list items) entries

end Shape

/-- What counts as false is taken for no placeholders. -/
def CountsAsFalse (given : Yaml.Datum) : Prop :=
  given.truth = false

/-! ## Items -/

theorem text?_eq_some_iff {datum : Yaml.Datum} {text : Text} :
    datum.text? = some text ↔ datum = .text text := by
  cases datum <;> simp [Yaml.Datum.text?]

/-- The texts of some data are those that the data are made of. -/
theorem texts?_eq_some_iff {items : List Yaml.Datum} {texts : List Text} :
    texts? items = some texts ↔ items = texts.map .text := by
  unfold texts?
  induction items generalizing texts with
  | nil => cases texts <;> simp
  | cons item rest inductionHypothesis =>
      rw [List.mapM_cons]
      simp only [Option.bind_eq_bind, Option.bind_eq_some_iff, text?_eq_some_iff,
        inductionHypothesis]
      cases texts with
      | nil => simp
      | cons text texts => simp

theorem placeholders?_eq_some_iff {given : Option Yaml.Datum} {texts : List Text} :
    placeholders? given = some texts ↔ GivesTexts CountsAsFalse given texts := by
  unfold placeholders?
  split
  · constructor
    · rintro ⟨⟩
      exact .absent
    · rintro ⟨⟩
      rfl
  · rename_i items
    rw [texts?_eq_some_iff]
    constructor
    · rintro rfl
      exact .texts texts
    · intro givesTexts
      cases givesTexts with
      | texts => rfl
      | ignored countsAsFalse =>
          -- Of the lists only the empty one counts as false.
          simpa [CountsAsFalse, Yaml.Datum.truth] using countsAsFalse
  · rename_i given notList
    split
    · rename_i isTrue
      refine iff_of_false nofun fun givesTexts => ?_
      cases givesTexts with
      | texts => exact notList _ rfl
      | ignored countsAsFalse => simp [CountsAsFalse, isTrue] at countsAsFalse
    · rename_i isFalse
      constructor
      · rintro ⟨⟩
        exact .ignored (Bool.eq_false_iff.mpr isFalse)
      · intro givesTexts
        cases givesTexts with
        | texts => exact absurd rfl (notList _)
        | ignored => rfl

/-- An item is the entry that it describes. -/
theorem ofItem_eq_ok_iff {index : Nat} {item : Yaml.Datum} {entry : PreloadEntry} :
    ofItem index item = .ok entry ↔ Describes CountsAsFalse item entry := by
  unfold ofItem
  split
  · rename_i expression
    constructor
    · rintro ⟨⟩
      exact .text expression
    · rintro ⟨⟩
      rfl
  · rename_i entries
    cases found : (Yaml.Datum.find? entries "expression").bind Yaml.Datum.text? with
    | none =>
        refine iff_of_false nofun fun describes => ?_
        cases describes with
        | mapping hasExpression => simp [hasExpression, Yaml.Datum.text?] at found
    | some expression =>
        obtain ⟨given, isGiven, isText⟩ := Option.bind_eq_some_iff.mp found
        rw [text?_eq_some_iff] at isText
        subst isText
        dsimp only
        cases given : placeholders? (Yaml.Datum.find? entries "placeholders") with
        | none =>
            refine iff_of_false nofun fun describes => ?_
            cases describes with
            | mapping _ givesTexts =>
                rw [← placeholders?_eq_some_iff, given] at givesTexts
                cases givesTexts
        | some texts =>
            have givesTexts := placeholders?_eq_some_iff.mp given
            constructor
            · rintro ⟨⟩
              exact .mapping isGiven givesTexts
            · intro describes
              cases describes with
              | mapping hasExpression givesOthers =>
                  rw [isGiven] at hasExpression
                  rw [← placeholders?_eq_some_iff, given] at givesOthers
                  cases hasExpression
                  cases givesOthers
                  rfl
  · rename_i notText notMapping
    refine iff_of_false nofun fun describes => ?_
    cases describes with
    | text => exact notText _ rfl
    | mapping => exact notMapping _ rfl

/-- The fault of an item names the index of the item. -/
theorem message_of_ofItem {index : Nat} {item : Yaml.Datum} {fault : ShapeFault}
    (failed : ofItem index item = .error fault) :
    ∃ rest, fault.message = "item " ++ toString index ++ " " ++ rest := by
  have isOfItem : fault = .noExpression index ∨ fault = .badPlaceholders index := by
    unfold ofItem at failed
    split at failed
    · cases failed
    · split at failed
      · cases failed
        exact .inl rfl
      · split at failed
        · cases failed
          exact .inr rfl
        · cases failed
    · cases failed
      exact .inl rfl
  obtain rfl | rfl := isOfItem
  · exact ⟨"must be a string or have an 'expression' string", by
      rw [ShapeFault.message, Text.append_assoc, Text.append_assoc]; rfl⟩
  · exact ⟨"placeholders must be a list of strings", by
      rw [ShapeFault.message, Text.append_assoc, Text.append_assoc]; rfl⟩

/-! ## Lists -/

/-- Items are entries if each of them describes one, in their order. -/
theorem ofItems_eq_ok_iff {start : Nat} {items : List Yaml.Datum}
    {entries : List PreloadEntry} :
    ofItems start items = .ok entries ↔
      List.Forall₂ (Describes CountsAsFalse) items entries := by
  induction items generalizing start entries with
  | nil =>
      unfold ofItems
      constructor
      · rintro ⟨⟩
        exact .nil
      · rintro ⟨⟩
        rfl
  | cons item rest inductionHypothesis =>
      unfold ofItems
      simp only [Outcome.bind_eq_ok_iff, ofItem_eq_ok_iff, inductionHypothesis]
      constructor
      · rintro ⟨entry, describes, others, describeRest, ⟨⟩⟩
        exact .cons describes describeRest
      · intro describe
        cases describe with
        | cons describes describeRest => exact ⟨_, describes, _, describeRest, rfl⟩

/-- Items fail with the fault of the first that is no entry. -/
theorem exists_first_of_ofItems {start : Nat} {items : List Yaml.Datum}
    {fault : ShapeFault}
    (failed : ofItems start items = .error fault) :
    ∃ earlier item later, items = earlier ++ item :: later ∧
      (∀ other ∈ earlier, ∃ entry, Describes CountsAsFalse other entry) ∧
      ofItem (start + earlier.length) item = .error fault := by
  induction items generalizing start with
  | nil => cases failed
  | cons item rest inductionHypothesis =>
      unfold ofItems at failed
      obtain itemFails | ⟨entry, isEntry, goneOn⟩ := Outcome.bind_eq_error_iff.mp failed
      · exact ⟨[], item, rest, rfl, List.forall_mem_nil _, itemFails⟩
      · obtain restFails | ⟨entries, -, goneOn⟩ := Outcome.bind_eq_error_iff.mp goneOn
        · obtain ⟨earlier, offending, later, rfl, describe, offends⟩ :=
            inductionHypothesis restFails
          refine ⟨item :: earlier, offending, later, rfl, ?_, ?_⟩
          · exact List.forall_mem_cons.mpr
              ⟨⟨entry, ofItem_eq_ok_iff.mp isEntry⟩, describe⟩
          · rwa [List.length_cons, ← Nat.add_assoc, Nat.add_right_comm]
        · cases goneOn

/-! ## Documents -/

theorem ofDatum_eq_ok_iff {datum : Yaml.Datum} {entries : List PreloadEntry} :
    ofDatum datum = .ok entries ↔ Lists CountsAsFalse datum entries := by
  unfold ofDatum
  split
  · constructor
    · rintro ⟨⟩
      exact .null
    · rintro ⟨⟩
      rfl
  · rw [ofItems_eq_ok_iff]
    constructor
    · exact .items
    · intro lists
      cases lists with
      | items describe => exact describe
  · rename_i notNull notList
    refine iff_of_false nofun fun lists => ?_
    cases lists with
    | null => exact notNull rfl
    | items => exact notList _ rfl

/-- Entries stay listed if more data stand for no placeholders. -/
theorem Lists.mono {StandsForNone Other : Yaml.Datum → Prop} {datum : Yaml.Datum}
    {entries : List PreloadEntry} (lists : Lists StandsForNone datum entries)
    (imp : ∀ given, StandsForNone given → Other given) : Lists Other datum entries := by
  cases lists with
  | null => exact .null
  | items describe =>
      refine .items (describe.imp fun item entry describes => ?_)
      cases describes with
      | text expression => exact .text expression
      | mapping hasExpression givesTexts =>
          refine .mapping hasExpression ?_
          generalize Yaml.Datum.find? _ "placeholders" = given at givesTexts ⊢
          cases givesTexts with
          | absent => exact .absent
          | texts => exact .texts _
          | ignored standsForNone => exact .ignored (imp _ standsForNone)

/-- Whether a file with a document is read by the shape of the document. -/
structure IsReadByShape (files : Files) (path : Text) (datum : Yaml.Datum) : Prop where
  /-- The entries of the file are those that the document lists. -/
  accepted_iff : ∀ entries, ofFile files path = .ok entries ↔
    Lists CountsAsFalse datum entries
  /-- In a document of the documented shape only null stands for no placeholders. -/
  documented : ∀ entries, Lists (· = .null) datum entries →
    ofFile files path = .ok entries
  /-- A document that lists no entries is refused for its shape. -/
  refused : (∀ entries, ¬ Lists CountsAsFalse datum entries) →
    ∃ fault, ofFile files path = .error (.shape (FilePath.normalize path) fault)
  /-- The message for a list that is refused names its first
  item that describes no entry. -/
  first_offending : ∀ items fault, datum = .list items →
    ofFile files path = .error fault →
    ∃ earlier item later, items = earlier ++ item :: later ∧
      (∀ other ∈ earlier, ∃ entry, Describes CountsAsFalse other entry) ∧
      (∀ entry, ¬ Describes CountsAsFalse item entry) ∧
      ∃ rest, fault.message =
        FilePath.normalize path ++ ": item " ++ toString earlier.length ++ " " ++ rest

/-- The entries of a file are those that its document lists, if it lists any. Every
document of the documented shape lists some. So do others, in which something else than
null stands for no placeholders because it counts as false. -/
theorem ofFile_accepts_shape {files : Files} {path : Text} {text : String}
    {datum : Yaml.Datum}
    (isRead : files.read path = .ok text)
    (isDocument : Yaml.Datum.ofText? text depth = .ok datum) :
    IsReadByShape files path datum := by
  have ofFile_eq : ofFile files path =
      (ofDatum datum).mapError (.shape (FilePath.normalize path)) := by
    unfold ofFile
    simp only [isRead, isDocument, Outcome.mapError_ok, Outcome.ok_bind]
  have accepted_iff (entries : List PreloadEntry) :
      ofFile files path = .ok entries ↔ Lists CountsAsFalse datum entries := by
    rw [ofFile_eq, Outcome.mapError_eq_ok_iff, ofDatum_eq_ok_iff]
  refine ⟨accepted_iff, ?_, ?_, ?_⟩
  · intro entries lists
    refine (accepted_iff entries).mpr (lists.mono ?_)
    rintro _ rfl
    rfl
  · intro listsNone
    cases outcome : ofDatum datum with
    | ok entries => exact absurd (ofDatum_eq_ok_iff.mp outcome) (listsNone entries)
    | error fault => exact ⟨fault, by rw [ofFile_eq, outcome]; rfl⟩
  · rintro items fault rfl failed
    cases outcome : ofDatum (.list items) with
    | ok entries =>
        rw [ofFile_eq, outcome] at failed
        cases failed
    | error own =>
        rw [ofFile_eq, outcome] at failed
        cases failed
        obtain ⟨earlier, item, later, rfl, describe, offends⟩ :=
          exists_first_of_ofItems outcome
        rw [Nat.zero_add] at offends
        obtain ⟨rest, isMessage⟩ := message_of_ofItem offends
        refine ⟨earlier, item, later, rfl, describe, fun entry describes => ?_, rest, ?_⟩
        · rw [ofItem_eq_ok_iff.mpr describes] at offends
          cases offends
        · have joined : (": item " : Text) = ": " ++ "item " := rfl
          rw [PreloadFault.message, isMessage, joined]
          simp only [Text.append_assoc]

/-- A list with three items, of which the last describes no entry. -/
theorem ofFile_accepts_shape_three_items :
    let files : Files :=
      ⟨[("types", "- str\n- {expression: $, placeholders: [num]}\n- 5\n")]⟩
    ∃ text datum, files.read "types" = .ok text ∧
    Yaml.Datum.ofText? text depth = .ok datum ∧
      IsReadByShape files "types" datum := by
  intro files
  have isRead :
      files.read "types" =
        .ok "- str\n- {expression: $, placeholders: [num]}\n- 5\n" := by
    decide +kernel
  have isYaml : (Yaml.Datum.ofText? "- str\n- {expression: $, placeholders: [num]}\n- 5\n"
      depth).map (fun _ => ()) = .ok () := by
    decide +kernel
  obtain ⟨datum, isDocument, -⟩ := Outcome.map_eq_ok_iff.mp isYaml
  exact ⟨_, datum, isRead, isDocument, ofFile_accepts_shape isRead isDocument⟩

/-- A document of another shape than the documented one is accepted: the placeholders of
its item are a truth value. -/
theorem ofDatum_accepts_false_for_placeholders :
    let datum : Yaml.Datum := .list
      [.mapping [(.text "expression", .text "str"),
        (.text "placeholders", .boolean false)]]
    (∀ entries, ¬ Lists (· = .null) datum entries) ∧
      ofDatum datum = .ok [⟨"str", []⟩] := by
  refine ⟨fun entries lists => ?_, rfl⟩
  obtain - | describe := lists
  obtain - | ⟨describes, -⟩ := describe
  obtain - | ⟨-, givesTexts⟩ := describes
  have given : Yaml.Datum.find?
      [(.text "expression", .text "str"), (.text "placeholders", .boolean false)]
        "placeholders" =
        some (.boolean false) := rfl
  rw [given] at givesTexts
  cases givesTexts with
  | ignored standsForNone => cases standsForNone

end PreloadEntry
end KindExpr
