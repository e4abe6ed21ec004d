import KindExpr.Proofs.Expr.Regular

/-!
# Reading alternatives back from their outlines

An outline describes an alternative by named fields. For alternatives that are built
by hand it can lose something: a type name beside a literal, or a negation of a key
that is not declared. For those that parsing gives it does not. A name is not empty
and has no slash, so that it differs from every literal as written, and the text of a
literal gives back the literal.

The order of the fields in a record makes no difference in this.
-/

namespace KindExpr

namespace Data

/-! ## The same data -/

mutual

/-- Whether two data are the same. Records are if they have fields of the same names
with the same data under each, in whatever order. -/
def Same : Data → Data → Prop
  | .boolean value, .boolean other => value = other
  | .text value, .text other => value = other
  | .list items, .list others => SameItems items others
  | .record fields, .record others =>
      (∀ name, fields.lookup name = none → others.lookup name = none) ∧
        SameFields fields others
  | _, _ => False

/-- Whether two lists hold the same data in the same order. -/
def SameItems : List Data → List Data → Prop
  | [], [] => True
  | item :: rest, other :: others => Same item other ∧ SameItems rest others
  | _, _ => False

/-- Whether some fields are among others, with the same data. -/
def SameFields : List (String × Data) → List (String × Data) → Prop
  | [], _ => True
  | (name, value) :: rest, others =>
      (∃ other, others.lookup name = some other ∧ Same value other) ∧
        SameFields rest others

end

/-- A field is found among the others, with the same data. -/
theorem exists_of_sameFields {fields others : List (String × Data)}
    (same : SameFields fields others) {name : String} {value : Data}
    (found : fields.lookup name = some value) :
    ∃ other, others.lookup name = some other ∧ Same value other := by
  induction fields with
  | nil => cases found
  | cons field rest inductionHypothesis =>
      obtain ⟨first, firstValue⟩ := field
      rw [SameFields] at same
      by_cases isFirst : name = first
      · subst isFirst
        rw [List.lookup_cons_self, Option.some.injEq] at found
        subst found
        exact same.1
      · rw [List.lookup_cons, beq_false_of_ne isFirst] at found
        exact inductionHypothesis same.2 found

/-- Under every name two records have the same data, or both have none. -/
theorem Same.lookup {fields others : List (String × Data)}
    (same : Same (.record fields) (.record others)) (name : String) :
    Option.Rel Same (fields.lookup name) (others.lookup name) := by
  rw [Same] at same
  cases found : fields.lookup name with
  | none =>
      rw [same.1 name found]
      exact .none
  | some value =>
      obtain ⟨other, otherFound, sameValue⟩ := exists_of_sameFields same.2 found
      rw [otherFound]
      exact .some sameValue

/-- Marks that are there on one side are there on the other. -/
theorem eq_of_rel_mark {flag other : Bool}
    (related : Option.Rel Same (if flag then some (.boolean true) else none)
      (if other then some (.boolean true) else none)) : flag = other := by
  cases flag with
  | true =>
      cases other with
      | true => rfl
      | false => cases related
  | false =>
      cases other with
      | true => cases related
      | false => rfl

/-- Texts that are the same are equal. -/
theorem eq_of_rel_text {α : Type} {text : α → Text} {first second : Option α}
    (related : Option.Rel Same (first.map fun found => .text (text found))
      (second.map fun found => .text (text found))) :
    first.map text = second.map text := by
  cases first with
  | none =>
      cases second with
      | none => rfl
      | some other => cases related
  | some found =>
      cases second with
      | none => cases related
      | some other =>
          cases related with
          | some same =>
              have sameText : text found = text other := by simpa only [Same] using same
              rw [Option.map_some, Option.map_some, sameText]

/-! ## Fields that can be absent -/

/-- The fields that are there, of some that can be absent. -/
def presentFields (fields : List (String × Option Data)) : List (String × Data) :=
  fields.filterMap fun field => field.2.map (field.1, ·)

theorem presentFields_absent (name : String) (rest : List (String × Option Data)) :
    presentFields ((name, none) :: rest) = presentFields rest := rfl

theorem presentFields_present (name : String) (value : Data)
    (rest : List (String × Option Data)) :
    presentFields ((name, some value) :: rest) = (name, value) :: presentFields rest :=
      rfl

theorem map_fst_presentFields (fields : List (String × Option Data)) :
    ((presentFields fields).map Prod.fst).Sublist (fields.map Prod.fst) := by
  induction fields with
  | nil => exact .slnil
  | cons field rest inductionHypothesis =>
      obtain ⟨name, value⟩ := field
      cases value with
      | none => exact inductionHypothesis.cons name
      | some value => exact inductionHypothesis.cons_cons name

/-- Under different names fields that can be absent do not hide each other. -/
theorem lookup_presentFields {fields : List (String × Option Data)}
    (distinct : (fields.map Prod.fst).Nodup) (name : String) :
    (presentFields fields).lookup name = (fields.lookup name).join := by
  induction fields with
  | nil => rfl
  | cons field rest inductionHypothesis =>
      obtain ⟨first, value⟩ := field
      rw [List.map_cons, List.nodup_cons] at distinct
      have afterwards := inductionHypothesis distinct.2
      by_cases isFirst : name = first
      · subst isFirst
        rw [List.lookup_cons_self]
        cases value with
        | some value =>
            rw [presentFields_present, List.lookup_cons_self]
            rfl
        | none =>
            -- The name is that of no later field.
            rw [presentFields_absent, Option.join_some]
            refine List.lookup_eq_none_iff.mpr fun field isThere => ?_
            rw [bne_iff_ne]
            rintro rfl
            have isName := List.mem_map_of_mem (f := Prod.fst) isThere
            exact distinct.1 ((map_fst_presentFields rest).mem isName)
      · rw [List.lookup_cons, beq_false_of_ne isFirst]
        cases value with
        | none => rw [presentFields_absent, afterwards]
        | some value =>
            rw [presentFields_present, List.lookup_cons, beq_false_of_ne isFirst]
            exact afterwards

/-- Under different names every field is found. -/
theorem lookup_of_mem {fields : List (String × Option Data)}
    (distinct : (fields.map Prod.fst).Nodup) {name : String} {value : Option Data}
    (isThere : (name, value) ∈ fields) : fields.lookup name = some value := by
  obtain ⟨before, after, rfl⟩ := List.append_of_mem isThere
  refine List.lookup_eq_some_iff.mpr ⟨before, after, rfl, fun field isEarlier => ?_⟩
  rw [bne_iff_ne]
  rintro rfl
  rw [List.map_append, List.map_cons, List.nodup_append] at distinct
  exact distinct.2.2 _ (List.mem_map_of_mem isEarlier) _ List.mem_cons_self rfl

/-- A record of fields with different names is the same as itself if their data are. -/
theorem same_record_self {fields : List (String × Option Data)}
    (distinct : (fields.map Prod.fst).Nodup)
    (each : ∀ field ∈ fields, ∀ value ∈ field.2, Same value value) :
    Same (.record (presentFields fields)) (.record (presentFields fields)) := by
  -- Fields are looked up in the whole record, however many of them have been compared.
  have compared : ∀ part, part ⊆ fields →
      SameFields (presentFields part) (presentFields fields) := by
    intro part isPart
    induction part with
    | nil =>
        rw [presentFields, List.filterMap_nil, SameFields]
        trivial
    | cons field rest inductionHypothesis =>
        obtain ⟨name, value⟩ := field
        rw [List.cons_subset] at isPart
        have restCompared := inductionHypothesis isPart.2
        cases value with
        | none => exact restCompared
        | some value =>
            rw [presentFields_present, SameFields]
            refine ⟨⟨value, ?_, each _ isPart.1 value rfl⟩, restCompared⟩
            rw [lookup_presentFields distinct, lookup_of_mem distinct isPart.1,
              Option.join_some]
  rw [Same]
  exact ⟨fun name => id, compared fields fun _ => id⟩

end Data

/-! ## What an outline says -/

/-- What an atom names: the literal as written, or else the type name. -/
def Atom.subject (atom : Atom) : Text :=
  match atom.literal with
  | some written => written.source
  | none => atom.name

namespace Alternative

open Data (Same SameItems presentFields)

/-- The fields that the outline of an alternative that is put
together from some parts can have. -/
def possibleFields (key : Option Atom) (own : Atom) (members : List Alternative) :
    List (String × Option Data) :=
  [("negate", if own.negated then some (.boolean true) else none),
    ("regex", own.literal.map fun written => .text written.source),
    ("type", if own.literal.isSome then none else some (.text own.name)),
    ("key", key.map fun atom => .text atom.subject),
    ("keyNegate", if key.any Atom.negated then some (.boolean true) else none),
    ("members", if members.isEmpty then none else some (.list (outlineAll members)))]

theorem outline_ofParts (key : Option Atom) (own : Atom) (members : List Alternative) :
    (ofParts key own members).outline =
      .record (presentFields (possibleFields key own members)) := by
  obtain ⟨negated, name, literal⟩ := own
  cases key with
  | none =>
      cases negated <;> cases literal <;> cases members <;>
        simp [ofParts, outline, hasKey, presentFields, possibleFields, outlineAll]
  | some atom =>
      obtain ⟨keyNegated, keyName, keyLiteral⟩ := atom
      cases negated <;> cases literal <;> cases keyNegated <;> cases keyLiteral <;>
        cases members <;>
        simp [ofParts, outline, hasKey, keyAlternative, blank, subject, Atom.subject,
          presentFields, possibleFields, outlineAll]

theorem nodup_possibleFields (key : Option Atom) (own : Atom)
    (members : List Alternative) :
    ((possibleFields key own members).map Prod.fst).Nodup := by
  simp [possibleFields]

end Alternative

/-! ## Atoms -/

/-- Literals that are read as themselves differ if they are written differently. -/
theorem Literal.IsWritten.eq_of_source {first second : Literal}
    (isWritten : first.IsWritten)
    (isWrittenToo : second.IsWritten) (same : first.source = second.source) :
    first = second := by
  have firstParsed := parse_source isWritten []
  rw [same, parse_source isWrittenToo] at firstParsed
  simpa [eq_comm] using firstParsed

/-- A type name has no slash. -/
theorem Literal.source_ne_name (written : Literal) {name : List Code}
    (nameChars : ∀ c ∈ name, Scan.isNameChar c = true) :
    written.source ≠ Text.ofList name := by
  intro same
  have characters : written.source.toList = name := congrArg Text.toList same
  rw [toList_source] at characters
  have isName := nameChars '/' (by rw [← characters]; exact List.mem_cons_self)
  exact absurd isName (by decide)

/-- Regular atoms are the same if they name the same and both are negated or none is. -/
theorem Atom.IsRegular.eq_of_subject {first second : Atom}
    (firstRegular : first.IsRegular)
    (secondRegular : second.IsRegular) (sameNegation : first.negated = second.negated)
    (sameSubject : first.subject = second.subject) : first = second := by
  cases firstRegular with
  | name negated notEmpty nameChars =>
      cases secondRegular with
      | name otherNegated otherNotEmpty otherNameChars =>
          simp only [Atom.subject] at sameNegation sameSubject
          rw [sameNegation, sameSubject]
      | literal otherNegated isWritten =>
          exact absurd sameSubject.symm (Literal.source_ne_name _ nameChars)
  | literal negated isWritten =>
      cases secondRegular with
      | name otherNegated otherNotEmpty otherNameChars =>
          exact absurd sameSubject (Literal.source_ne_name _ otherNameChars)
      | literal otherNegated isWrittenToo =>
          simp only [Atom.subject] at sameNegation sameSubject
          rw [sameNegation, isWritten.eq_of_source isWrittenToo sameSubject]

/-! ## Alternatives -/

namespace Alternative

open Data (Same SameItems)

/-- Alternatives are the same one by one if their outlines are, when this is so for the
alternatives in question. -/
theorem eq_of_sameItems {first second : List Alternative}
    (each : ∀ node ∈ first, ∀ other ∈ second, Same node.outline other.outline →
      node = other)
    (same : SameItems (outlineAll first) (outlineAll second)) : first = second := by
  induction first generalizing second with
  | nil =>
      cases second with
      | nil => rfl
      | cons other others => simp [outlineAll, Data.SameItems] at same
  | cons node rest inductionHypothesis =>
      cases second with
      | nil => simp [outlineAll, Data.SameItems] at same
      | cons other others =>
          rw [outlineAll, outlineAll, Data.SameItems] at same
          have sameFirst := each node List.mem_cons_self other List.mem_cons_self same.1
          have sameRest := inductionHypothesis
            (fun later isLater further isFurther =>
              each later (List.mem_cons_of_mem _ isLater)
              further (List.mem_cons_of_mem _ isFurther)) same.2
          rw [sameFirst, sameRest]

section

variable {key otherKey : Option Atom} {own otherOwn : Atom}
  {members others : List Alternative}

/-- In outlines that are the same, fields that can be absent are both
absent or have the same data. -/
theorem rel_of_same (same : Same (ofParts key own members).outline
    (ofParts otherKey otherOwn others).outline) (name : String) :
    Option.Rel Same ((possibleFields key own members).lookup name).join
      ((possibleFields otherKey otherOwn others).lookup name).join := by
  rw [outline_ofParts, outline_ofParts] at same
  have related := same.lookup name
  rwa [Data.lookup_presentFields (nodup_possibleFields ..),
    Data.lookup_presentFields (nodup_possibleFields ..)] at related

/-- The atom of an alternative can be read back. -/
theorem own_eq_of_same (ownRegular : own.IsRegular) (otherRegular : otherOwn.IsRegular)
    (same : Same (ofParts key own members).outline
      (ofParts otherKey otherOwn others).outline) :
    own = otherOwn := by
  have sameNegation := rel_of_same same "negate"
  have sameLiteral := rel_of_same same "regex"
  have sameName := rel_of_same same "type"
  simp only [possibleFields, List.lookup_cons, String.reduceBEq, Option.join_some]
    at sameNegation sameLiteral sameName
  refine ownRegular.eq_of_subject otherRegular (Data.eq_of_rel_mark sameNegation) ?_
  have sameSource := Data.eq_of_rel_text sameLiteral
  unfold Atom.subject
  cases isLiteral : own.literal with
  | some written =>
      rw [isLiteral] at sameSource
      obtain ⟨other, isOther, sameText⟩ := Option.map_eq_some_iff.mp sameSource.symm
      rw [isOther]
      exact sameText.symm
  | none =>
      rw [isLiteral, Option.map_none, eq_comm, Option.map_eq_none_iff] at sameSource
      rw [isLiteral, sameSource] at sameName
      rw [sameSource]
      cases sameName with
      | some sameText => simpa only [Data.Same] using sameText

/-- The key of an alternative can be read back. -/
theorem key_eq_of_same (keyRegular : ∀ atom ∈ key, atom.IsRegular)
    (otherRegular : ∀ atom ∈ otherKey, atom.IsRegular)
    (same : Same (ofParts key own members).outline
      (ofParts otherKey otherOwn others).outline) :
    key = otherKey := by
  have sameSubject := rel_of_same same "key"
  have sameNegation := rel_of_same same "keyNegate"
  simp only [possibleFields, List.lookup_cons, String.reduceBEq, Option.join_some]
    at sameSubject sameNegation
  have sameSubject := Data.eq_of_rel_text sameSubject
  cases key with
  | none =>
      rw [Option.map_none, eq_comm, Option.map_eq_none_iff] at sameSubject
      rw [sameSubject]
  | some atom =>
      obtain ⟨other, rfl, sameText⟩ := Option.map_eq_some_iff.mp sameSubject.symm
      have sameAtom := (keyRegular atom rfl).eq_of_subject (otherRegular other rfl)
        (Data.eq_of_rel_mark sameNegation) sameText.symm
      rw [sameAtom]

/-- The outlines of the members of an alternative can be read back. -/
theorem sameItems_of_same
    (same : Same (ofParts key own members).outline
      (ofParts otherKey otherOwn others).outline) :
    SameItems (outlineAll members) (outlineAll others) := by
  have sameMembers := rel_of_same same "members"
  simp only [possibleFields, List.lookup_cons, String.reduceBEq,
    Option.join_some] at sameMembers
  cases members with
  | nil =>
      cases others with
      | nil => simp [outlineAll, Data.SameItems]
      | cons other rest => cases sameMembers
  | cons member rest =>
      cases others with
      | nil => cases sameMembers
      | cons other later =>
          cases sameMembers with
          | some sameList => simpa only [Data.Same] using sameList

end

/-- Regular alternatives can be read back from their outlines. -/
theorem IsRegular.eq_of_same {first : Alternative} (firstRegular : first.IsRegular)
    {second : Alternative} (secondRegular : second.IsRegular)
    (same : Same first.outline second.outline) : first = second := by
  induction firstRegular generalizing second with
  | @ofParts key own members keyRegular ownRegular membersRegular inductionHypothesis =>
      obtain ⟨otherKeyRegular, otherOwnRegular, othersRegular⟩ := secondRegular
      have sameOwn := own_eq_of_same ownRegular otherOwnRegular same
      have sameKey := key_eq_of_same keyRegular otherKeyRegular same
      have sameMembers := eq_of_sameItems
        (fun member isMember other isOther =>
          inductionHypothesis member isMember (othersRegular other isOther))
        (sameItems_of_same same)
      rw [sameOwn, sameKey, sameMembers]

/-- Outlines are the same as themselves if each of them is. -/
theorem sameItems_self {nodes : List Alternative}
    (each : ∀ node ∈ nodes, Same node.outline node.outline) :
    SameItems (outlineAll nodes) (outlineAll nodes) := by
  induction nodes with
  | nil => simp [outlineAll, Data.SameItems]
  | cons node rest inductionHypothesis =>
      rw [outlineAll, Data.SameItems]
      exact ⟨each node List.mem_cons_self,
        inductionHypothesis fun later isLater =>
          each later (List.mem_cons_of_mem _ isLater)⟩

/-- The outline of a regular alternative is the same as itself. -/
theorem IsRegular.same_self {node : Alternative} (regular : node.IsRegular) :
    Same node.outline node.outline := by
  induction regular with
  | @ofParts key own members keyRegular ownRegular membersRegular inductionHypothesis =>
      have membersSame := sameItems_self inductionHypothesis
      rw [outline_ofParts]
      refine Data.same_record_self (nodup_possibleFields key own members) ?_
      -- The data of a field are a mark, a text or the outlines of the members.
      have markSame (flag : Bool) :
          ∀ data ∈ (if flag then some (.boolean true) else none), Same data data := by
        cases flag <;> simp [Data.Same]
      have textSame {α : Type} (text : α → Text) (found : Option α) :
          ∀ data ∈ found.map fun given => .text (text given), Same data data := by
        cases found <;> simp [Data.Same]
      simp only [possibleFields, List.forall_mem_cons]
      refine ⟨markSame own.negated, textSame Literal.source own.literal, ?_,
        textSame Atom.subject key, markSame (key.any Atom.negated), ?_, nofun⟩
      · cases own.literal <;> simp [Data.Same]
      · cases members with
        | nil => simp
        | cons member rest => simpa [Data.Same] using membersSame

/-! ## Reading back -/

/-- The outlines of what is parsed can be read back: the alternatives are the same
whenever their outlines are, whatever the order of the fields is in them. -/
theorem outlines_same_iff_alternatives_eq {expression other : Text}
    {placeholders otherPlaceholders : List Value} {first second : Parsed}
    (firstParsed : parse expression placeholders = .ok first)
    (secondParsed : parse other otherPlaceholders = .ok second) :
    SameItems (outlineAll first.alternatives) (outlineAll second.alternatives) ↔
      first.alternatives = second.alternatives := by
  have firstRegular := isRegular_of_parse firstParsed
  have secondRegular := isRegular_of_parse secondParsed
  constructor
  · exact eq_of_sameItems fun node isFirst other isSecond =>
      (firstRegular node isFirst).eq_of_same (secondRegular other isSecond)
  · intro sameAlternatives
    rw [← sameAlternatives]
    exact sameItems_self fun node isFirst => (firstRegular node isFirst).same_self

/-- A literal for the keys, written out and given as a value, and a type name for them. -/
theorem outlines_same_iff_alternatives_eq_key :
    ∃ first second third, parse "map</num/:!str>" [] = .ok first ∧
      parse " map < $ : !str > " [.text "/num/"] = .ok second ∧
      parse "map<num:!str>" [] = .ok third ∧
      SameItems (outlineAll first.alternatives) (outlineAll second.alternatives) ∧
      ¬ SameItems (outlineAll first.alternatives) (outlineAll third.alternatives) := by
  let withLiteral : Alternative :=
    ⟨"map", false, none, [⟨"str", true, none, [], some "", some ⟨"num", ""⟩, false⟩],
      none, none, false⟩
  let withName : Alternative :=
    ⟨"map", false, none, [⟨"str", true, none, [], some "num", none, false⟩], none,
      none, false⟩
  have firstParsed : parse "map</num/:!str>" [] =
      .ok ⟨[withLiteral], "map</num/:!str>"⟩ := rfl
  have secondParsed : parse " map < $ : !str > " [.text "/num/"] =
      .ok ⟨[withLiteral], " map < /num/ : !str > "⟩ := rfl
  have thirdParsed : parse "map<num:!str>" [] = .ok ⟨[withName], "map<num:!str>"⟩ := rfl
  refine ⟨_, _, _, firstParsed, secondParsed, thirdParsed,
    (outlines_same_iff_alternatives_eq firstParsed secondParsed).mpr rfl, fun same => ?_⟩
  have equal := (outlines_same_iff_alternatives_eq firstParsed thirdParsed).mp same
  simp [withLiteral, withName] at equal

end Alternative

end KindExpr
