import RootedHeap.Proofs.JsonLiterals

/-!
# Configurations as they are written

A `Layout` is a way to write fields of a configuration as an object: which fields are given and in
which order, none of them twice, and the blanks around all parts. What is needed of a decoder is
that without members there are the defaults, and what one member more does (`ReadsObjects`); of an
encoder, that it writes an object of all fields (`WritesObjects`). By induction over the members,
such a decoder finds in an object its fields and the defaults of the others
(`ReadsObjects.decode_layout`). This counts only if it is valid (`ofJsonWith_eq_ok_iff`), and
otherwise the first field that is zero is the error (`validate_eq_error_iff`). All of this together
is `ofJson_exact`.

The program's own decoder and encoder are of this kind (`readsObjects_decode`,
`writesObjects_text`). For the decoder, the value of a field is read as it is written
(`readValue_text`), so a member sets its field and no other (`readMembers_member`), and again by
induction an object gives its fields (`readMembers_members`).
-/

namespace RootedHeap.Config

open Json (Blanks Cursor EndsNumber Yields)

/-! ## Texts -/

/-- How a field is written: the blanks before its key, around the colon, and after its value. -/
structure Member where
  field : Field
  beforeKey : Blanks := .none
  beforeColon : Blanks := .none
  beforeValue : Blanks := .none
  afterValue : Blanks := .none

/-- The key and the value of a field with the blanks around them. -/
def Member.text (config : Config) (m : Member) : List Char :=
  m.beforeKey ++ '"' :: (m.field.name.toList ++ '"' :: (m.beforeColon ++
    ':' :: (m.beforeValue ++ ((valueText (config.value? m.field)).toList ++ m.afterValue))))

/-- How an object is written that gives fields of a configuration, each of them once: the members in
their order, and the blanks before the object, in front of its end and after it. -/
structure Layout where
  members : List Member
  nodup : (members.map Member.field).Nodup
  before : Blanks := .none
  inner : Blanks := .none
  after : Blanks := .none

namespace Layout

/-- The fields that are given. -/
def fields (layout : Layout) : List Field := layout.members.map Member.field

/-- The object that gives fields of a configuration. -/
def text (layout : Layout) (config : Config) : String :=
  String.ofList (layout.before ++ '{' ::
    ([','].intercalate (layout.members.map (Member.text config)) ++
      (layout.inner ++ '}' :: layout.after)))

/-- All fields in the order of declaration, without blanks. -/
def compact : Layout where
  members := Config.fields.map fun field => { field }
  nodup := by decide

/-- A member in front of others that do not give its field. -/
def cons (m : Member) (layout : Layout) (hm : m.field ∉ layout.fields) : Layout :=
  { layout with members := m :: layout.members, nodup := List.nodup_cons.2 ⟨hm, layout.nodup⟩ }

end Layout

/-- What stands in front of a member apart from blanks: a comma, unless it is the first one. -/
def separator (first : Bool) : List Char := if first then [] else [',']

/-- Members in a row, from the first one on or from a later one. -/
def membersText (config : Config) : (first : Bool) → List Member → List Char
  | _, [] => []
  | first, m :: members => separator first ++ (m.text config ++ membersText config false members)

/-! ## Configurations -/

/-- A configuration with some fields of another one. -/
def withFields (config source : Config) (given : List Field) : Config where
  stackMax := if .stackMax ∈ given then source.stackMax else config.stackMax
  initialThreshold :=
    if .initialThreshold ∈ given then source.initialThreshold else config.initialThreshold
  maxObjects := if .maxObjects ∈ given then source.maxObjects else config.maxObjects

/-- A configuration with a field set to a word. -/
def setWord (config : Config) (n : UInt64) : Field → Config
  | .stackMax => { config with stackMax := n }
  | .initialThreshold => { config with initialThreshold := n }
  | .maxObjects => { config with maxObjects := some n }

/-- A field is zero, and no field that is declared before it. -/
def FirstZero (config : Config) (field : Field) : Prop :=
  config.value? field = some 0 ∧ ∃ earlier later, fields = earlier ++ field :: later ∧
    ∀ other ∈ earlier, config.value? other ≠ some 0

/-! ## Decoders and encoders -/

/-- A decoder reads objects by the names of their members, as it is documented of one that is
derived from the declaration of the fields and has a default for each of them. -/
structure ReadsObjects (decode : String → Except Json.Error Config) : Prop where
  /-- Without members every field has its default. -/
  defaults : ∀ (layout : Layout) (source : Config), layout.members = [] →
    decode (layout.text source) = .ok {}
  /-- One member more, with a number, sets the field of its name and leaves the others. -/
  word : ∀ (m : Member) (layout : Layout) (hm : m.field ∉ layout.fields) (source config : Config)
    (n : UInt64), source.value? m.field = some n → decode (layout.text source) = .ok config →
    decode ((layout.cons m hm).text source) = .ok (config.setWord n m.field)
  /-- One member more, with `null`, says that there is no cap. -/
  null : ∀ (m : Member) (layout : Layout) (hm : m.field ∉ layout.fields) (source config : Config),
    source.value? m.field = none → decode (layout.text source) = .ok config →
    decode ((layout.cons m hm).text source) = .ok { config with maxObjects := none }

/-- An encoder writes objects of all fields, as it is documented of one that is derived from their
declaration. -/
def WritesObjects (encode : Config → String) : Prop :=
  ∀ config, ∃ layout : Layout, (∀ field, field ∈ layout.fields) ∧
    encode config = layout.text config

section
variable {config source : Config} {field : Field} {given missing : List Field} {c : Cursor}
  {rest : List Char}

/-- All of the fields. -/
theorem withFields_of_forall_mem (hall : ∀ field, field ∈ given) :
    config.withFields source given = source := by
  simp [withFields, hall]

/-- A number more. -/
theorem setWord_withFields {n : UInt64} (hn : source.value? field = some n) :
    (config.withFields source given).setWord n field =
      config.withFields source (field :: given) := by
  cases field <;> simp_all [setWord, withFields, value?]

/-- No cap. -/
theorem uncap_withFields (hnone : source.value? field = none) :
    { config.withFields source given with maxObjects := none } =
      config.withFields source (field :: given) := by
  cases field <;> simp_all [withFields, value?]

/-- One field, and then more of them. -/
theorem withFields_withFields (config source : Config) (field : Field) (given : List Field) :
    (config.withFields source [field]).withFields source given =
      config.withFields source (field :: given) := by
  cases field <;> simp [withFields]

/-- The error of what is not valid is the first field that is zero. -/
theorem validate_eq_error_iff :
    config.validate = .error (.zero field) ↔ FirstZero config field := by
  have hfind : config.validate = .error (.zero field) ↔
      fields.find? (config.value? · = some 0) = some field := by
    unfold validate
    split
    · next found hfound => simp [hfound]
    · next hnone => simp [hnone]
  rw [hfind, List.find?_eq_some_iff_append, FirstZero]
  simp

/-- What is not valid has a first field that is zero. -/
theorem validate_eq_ok_or (config : Config) :
    config.validate = .ok () ∨ ∃ field, FirstZero config field := by
  simp only [← validate_eq_error_iff]
  unfold validate
  split
  · next found _ => exact .inr ⟨found, rfl⟩
  · exact .inl rfl

/-! ## Values -/

/-- Behind a value there are blanks, and then a comma or the end of the object. -/
theorem endsNumber_append {d : Char} (blanks : Blanks) (hd : d = ',' ∨ d = '}') :
    EndsNumber (blanks ++ d :: rest) := by
  intro head hhead
  obtain ⟨cs, hblank⟩ := blanks
  cases cs with
  | nil =>
    cases hhead
    rcases hd with rfl | rfl <;> decide
  | cons b bs =>
    cases hhead
    rcases Json.eq_of_isBlank (hblank head (.head _)) with rfl | rfl | rfl | rfl <;> decide

/-- A word is written by its digits. -/
theorem toList_valueText (n : UInt64) : (valueText (some n)).toList = Nat.toDigits 10 n.toNat :=
  Nat.toList_repr

/-- A word is read as it is written. -/
theorem readWord_text (n : UInt64) (blanks : Blanks)
    (hc : c.rest = blanks ++ ((valueText (some n)).toList ++ rest)) (hrest : EndsNumber rest) :
    Yields (readWord c) n rest := by
  rw [toList_valueText] at hc
  have hskip : c.skipBlanks.rest = Nat.toDigits 10 n.toNat ++ rest := by
    obtain ⟨d, ds, hcons, hdigit⟩ := Json.exists_digit_toDigits n.toNat
    rw [hcons, List.cons_append] at hc ⊢
    exact Json.rest_skipBlanks_cons blanks hc (Json.isBlank_of_isDigit hdigit)
  exact (Json.readFound_toDigits n hskip hrest).bind fun after hafter => ⟨after, rfl, hafter⟩

/-- A word is read as it is written, and so is none. -/
theorem readOptionalWord_text (value : Option UInt64) (blanks : Blanks)
    (hc : c.rest = blanks ++ ((valueText value).toList ++ rest)) (hrest : EndsNumber rest) :
    Yields (readOptionalWord c) value rest := by
  cases value with
  | none =>
    have hskip : c.skipBlanks.rest = 'n' :: (['u', 'l', 'l'] ++ rest) :=
      Json.rest_skipBlanks_cons blanks hc rfl
    obtain ⟨after, hread, hafter⟩ := Json.readKeyword_append (Json.rest_next_cons hskip)
    rw [readOptionalWord, hskip]
    simp only [hread]
    exact ⟨after, rfl, hafter⟩
  | some n =>
    have hword := readWord_text n blanks hc hrest
    obtain ⟨d, ds, hcons, hdigit⟩ := Json.exists_digit_toDigits n.toNat
    rw [toList_valueText, hcons, List.cons_append] at hc
    rw [readOptionalWord, Json.rest_skipBlanks_cons blanks hc (Json.isBlank_of_isDigit hdigit)]
    split
    · next heq =>
      cases heq
      cases hdigit
    · exact hword.map fun _ => rfl

/-- The value of a field is read as it is written. -/
theorem readValue_text (field : Field) (blanks : Blanks)
    (hc : c.rest = blanks ++ ((valueText (source.value? field)).toList ++ rest))
    (hrest : EndsNumber rest) :
    Yields (readValue config field c) (config.withFields source [field]) rest := by
  cases field with
  | stackMax => exact (readWord_text source.stackMax blanks hc hrest).map fun _ => rfl
  | initialThreshold =>
    exact (readWord_text source.initialThreshold blanks hc hrest).map fun _ => rfl
  | maxObjects => exact (readOptionalWord_text source.maxObjects blanks hc hrest).map fun _ => rfl

/-! ## Members -/

/-- The key of a member comes after the separator. -/
theorem nextKey?_separator (first : Bool) (lead blanks : Blanks)
    (hc : c.rest = lead ++ (separator first ++ (blanks ++ '"' :: rest))) :
    ∃ key, nextKey? first c = .ok (some key) ∧ key.rest = '"' :: rest := by
  cases first with
  | true =>
    have hskip : c.skipBlanks.rest = '"' :: rest := by
      refine Json.rest_skipBlanks_cons (lead.append blanks) ?_ rfl
      rw [hc, separator, if_pos rfl, List.nil_append, Blanks.coe_append, List.append_assoc]
    refine ⟨c.skipBlanks, ?_, hskip⟩
    simp [nextKey?, hskip]
  | false =>
    have hskip : c.skipBlanks.rest = ',' :: (blanks ++ '"' :: rest) :=
      Json.rest_skipBlanks_cons lead hc rfl
    have hkey : c.skipBlanks.next.skipBlanks.rest = '"' :: rest :=
      Json.rest_skipBlanks_cons blanks (Json.rest_next_cons hskip) rfl
    refine ⟨c.skipBlanks.next.skipBlanks, ?_, hkey⟩
    simp [nextKey?, hskip, hkey]

/-- There is no key in front of the end of an object. -/
theorem nextKey?_end (first : Bool) (blanks : Blanks) (hc : c.rest = blanks ++ '}' :: rest) :
    nextKey? first c = .ok none := by
  have hskip : c.skipBlanks.rest = '}' :: rest := Json.rest_skipBlanks_cons blanks hc rfl
  simp [nextKey?, hskip]

/-- The name of a field is read as it is written. -/
theorem readString_name (field : Field) (hc : c.rest = '"' :: (field.name.toList ++ '"' :: rest)) :
    Yields (Json.readString c.next.position [] c.next.rest) field.name rest := by
  have hplain : ∀ char ∈ field.name.toList, char ≠ '"' ∧ char ≠ '\\' ∧ 32 ≤ char.toNat := by
    cases field <;> simp [Field.name]
  rw [Json.rest_next_cons hc]
  have hread := @Json.readString_plain rest field.name.toList c.next.position [] hplain
  rwa [List.reverse_nil, List.nil_append, String.ofList_toList] at hread

/-- A field is found by its name. -/
theorem ofName?_name (field : Field) : Field.ofName? field.name = some field := by
  cases field <;> rfl

/-- The colon after a key. -/
theorem readColon_append (blanks : Blanks) (hc : c.rest = blanks ++ ':' :: rest) :
    ∃ after, readColon c = .ok after ∧ after.rest = rest := by
  have hskip : c.skipBlanks.rest = ':' :: rest := Json.rest_skipBlanks_cons blanks hc rfl
  refine ⟨c.skipBlanks.next, ?_, Json.rest_next_cons hskip⟩
  simp [readColon, hskip]

/-- A member sets its field, and is not to be given again. -/
theorem readMembers_member (m : Member) (hmissing : m.field ∈ missing) (first : Bool)
    (lead : Blanks) (hc : c.rest = lead ++ (separator first ++ (m.text source ++ rest)))
    (hrest : EndsNumber (m.afterValue ++ rest)) :
    ∃ after, after.rest = m.afterValue ++ rest ∧
      readMembers config missing first c =
        readMembers (config.withFields source [m.field]) (missing.erase m.field) false after := by
  simp only [Member.text, List.append_assoc, List.cons_append] at hc
  obtain ⟨key, hkey, hc⟩ := nextKey?_separator first lead m.beforeKey hc
  obtain ⟨c, hname, hc⟩ := readString_name m.field hc
  obtain ⟨after, hcolon, hafter⟩ := readColon_append m.beforeColon hc
  have hsets : Yields (readValue config m.field after) (config.withFields source [m.field]) _ :=
    readValue_text m.field m.beforeValue hafter hrest
  obtain ⟨after, hvalue, hafter⟩ := hsets
  refine ⟨after, hafter, ?_⟩
  rw [readMembers, hkey]
  simp only [bind, Except.bind, hname, ofName?_name, if_pos hmissing, hcolon, hvalue]

/-- The end of an object. -/
theorem readMembers_end (first : Bool) (blanks : Blanks) (hc : c.rest = blanks ++ '}' :: rest) :
    Yields (readMembers config missing first c) config rest := by
  have hskip : c.skipBlanks.rest = '}' :: rest := Json.rest_skipBlanks_cons blanks hc rfl
  refine ⟨c.skipBlanks.next, ?_, Json.rest_next_cons hskip⟩
  rw [readMembers, nextKey?_end first blanks hc]
  rfl

/-- A value ends in front of the other members and of the end of the object. -/
theorem endsNumber_members (members : List Member) (blanks inner : Blanks) :
    EndsNumber (blanks ++ (membersText source false members ++ (inner ++ '}' :: rest))) := by
  cases members with
  | nil =>
    have hends : EndsNumber (blanks.append inner ++ '}' :: rest) := endsNumber_append _ (.inr rfl)
    rwa [Blanks.coe_append, List.append_assoc] at hends
  | cons m members => exact endsNumber_append blanks (.inl rfl)

/-- Members set their fields. -/
theorem readMembers_members (members : List Member) (first : Bool) (lead inner : Blanks)
    (hnodup : (members.map Member.field).Nodup) (hmissing : ∀ m ∈ members, m.field ∈ missing)
    (hc : c.rest = lead ++ (membersText source first members ++ (inner ++ '}' :: rest))) :
    Yields (readMembers config missing first c)
      (config.withFields source (members.map Member.field)) rest := by
  induction members generalizing config missing first lead c with
  | nil =>
    refine readMembers_end first (lead.append inner) ?_
    rw [hc, membersText, List.nil_append, Blanks.coe_append, List.append_assoc]
  | cons m members ih =>
    obtain ⟨hm, hmissing⟩ := List.forall_mem_cons.1 hmissing
    obtain ⟨hnotMem, hnodup⟩ := List.nodup_cons.1 hnodup
    simp only [membersText, List.append_assoc] at hc
    obtain ⟨after, hafter, heq⟩ := readMembers_member m hm first lead hc
      (endsNumber_members members m.afterValue inner)
    have hothers : ∀ other ∈ members, other.field ∈ missing.erase m.field := by
      intro other hother
      have hne : other.field ≠ m.field := by
        intro heq
        exact hnotMem (heq ▸ List.mem_map_of_mem hother)
      exact (List.mem_erase_of_ne hne).2 (hmissing other hother)
    rw [heq]
    have hread : Yields (readMembers (config.withFields source [m.field]) _ _ after) _ rest :=
      ih false m.afterValue hnodup hothers hafter
    rwa [withFields_withFields] at hread

/-! ## Objects -/

/-- Members with commas in between are members in a row. -/
theorem intercalate_members (members : List Member) :
    [','].intercalate (members.map (Member.text source)) = membersText source true members := by
  induction members with
  | nil => rfl
  | cons m members ih =>
    cases members with
    | nil => simp [membersText, separator]
    | cons next members =>
      rw [List.map_cons, List.map_cons, List.intercalate_cons_cons, ← List.map_cons, ih,
        List.append_assoc]
      rfl

/-- An object gives its fields and the defaults of the others. -/
theorem readConfig_layout (layout : Layout) (source : Config)
    (hc : c.rest = layout.before ++ '{' ::
      ([','].intercalate (layout.members.map (Member.text source)) ++
        (layout.inner ++ '}' :: rest))) :
    Yields (readConfig c) (({} : Config).withFields source layout.fields) rest := by
  have hfields : ∀ m ∈ layout.members, m.field ∈ fields := by
    intro m _
    cases m.field <;> decide
  have hskip := Json.rest_skipBlanks_cons layout.before hc rfl
  have hnext : c.skipBlanks.next.rest = ([] : List Char) ++
      (membersText source true layout.members ++ (layout.inner ++ '}' :: rest)) := by
    rw [Json.rest_next_cons hskip, intercalate_members, List.nil_append]
  rw [readConfig, hskip]
  exact readMembers_members layout.members true .none layout.inner layout.nodup hfields hnext

/-- An object with nothing but blanks around it gives its fields and the defaults of the others. -/
theorem decode_layout (layout : Layout) (config : Config) :
    decode (layout.text config) = .ok (({} : Config).withFields config layout.fields) := by
  have hc : (Cursor.ofString (layout.text config)).rest = layout.before ++ '{' ::
      ([','].intercalate (layout.members.map (Member.text config)) ++
        (layout.inner ++ '}' :: layout.after)) := String.toList_ofList
  obtain ⟨after, hread, hafter⟩ := readConfig_layout layout config hc
  have hend : after.skipBlanks.rest = [] := by
    refine Json.rest_skipBlanks layout.after ?_ nofun
    rw [hafter, List.append_nil]
  rw [decode, hread]
  simp only [bind, Except.bind, hend]
  rfl

/-- The program's decoder reads objects by the names of their members. -/
theorem readsObjects_decode : ReadsObjects Config.decode where
  defaults layout source hnone := by
    rw [decode_layout]
    simp [Layout.fields, hnone, withFields]
  word m layout hm source config n hn hread := by
    rw [decode_layout] at hread ⊢
    cases hread
    exact congrArg _ (setWord_withFields hn).symm
  null m layout hm source config hnone hread := by
    rw [decode_layout] at hread ⊢
    cases hread
    exact congrArg _ (uncap_withFields hnone).symm

/-- The program's encoder writes an object of all fields, without blanks. -/
theorem writesObjects_text : WritesObjects Config.text := by
  intro config
  refine ⟨.compact, fun field => by cases field <;> decide, ?_⟩
  rw [← String.toList_inj]
  simp [Layout.text, Layout.compact, text, fields, Member.text, Blanks.none]

end

/-! ## Any decoder -/

section
variable {decode : String → Except Json.Error Config} {config : Config}

/-- A decoder finds in an object its fields and the defaults of the others. -/
theorem ReadsObjects.decode_layout (hdecode : ReadsObjects decode) (layout : Layout)
    (config : Config) :
    decode (layout.text config) = .ok (({} : Config).withFields config layout.fields) := by
  obtain ⟨members, hnodup, before, inner, after⟩ := layout
  induction members with
  | nil => exact hdecode.defaults _ config rfl
  | cons m members ih =>
    obtain ⟨hm, hrest⟩ := List.nodup_cons.1 hnodup
    let others : Layout := ⟨members, hrest, before, inner, after⟩
    have hread : decode (others.text config) = _ := ih hrest
    cases hvalue : config.value? m.field with
    | none =>
      have hnull := hdecode.null m others hm config _ hvalue hread
      rwa [uncap_withFields hvalue] at hnull
    | some n =>
      have hword := hdecode.word m others hm config _ n hvalue hread
      rwa [setWord_withFields hvalue] at hword

/-- What a decoder finds is validated. -/
theorem ofJsonWith_of_decode {text : String} (hread : decode text = .ok config) :
    ofJsonWith decode text = do
      config.validate
      return config := by
  rw [ofJsonWith, hread]
  rfl

/-- A text holds the configuration that the decoder finds, if this is valid. -/
theorem ofJsonWith_eq_ok_iff {text : String} :
    ofJsonWith decode text = .ok config ↔
      decode text = .ok config ∧ config.validate = .ok () := by
  cases hread : decode text with
  | error e =>
    rw [ofJsonWith, hread]
    exact ⟨nofun, nofun⟩
  | ok found =>
    rw [ofJsonWith_of_decode hread]
    cases hvalidate : found.validate with
    | error e =>
      refine ⟨nofun, ?_⟩
      rintro ⟨hfound, hvalid⟩
      cases hfound
      rw [hvalidate] at hvalid
      cases hvalid
    | ok =>
      constructor
      · intro hfound
        cases hfound
        exact ⟨rfl, hvalidate⟩
      · rintro ⟨hfound, -⟩
        cases hfound
        rfl

end

/-- Let a decoder read objects by the names of their members, and an encoder write objects of all
fields. Whatever fields are given, in whatever order and with whatever blanks, the text holds the
configuration with the given values and the defaults elsewhere if it is valid, and otherwise the
first field that is zero is the error. What is written of a configuration holds it again just if it
is valid; and whatever a text holds is valid. -/
theorem ofJson_exact {decode : String → Except Json.Error Config} {encode : Config → String}
    (hdecode : ReadsObjects decode) (hencode : WritesObjects encode) :
    (∀ (layout : Layout) (config : Config),
      let read := ({} : Config).withFields config layout.fields
      (read.validate = .ok () → ofJsonWith decode (layout.text config) = .ok read) ∧
      (∀ field, FirstZero read field →
        ofJsonWith decode (layout.text config) = .error (.zero field)) ∧
      (read.validate = .ok () ∨ ∃ field, FirstZero read field)) ∧
    (∀ config : Config,
      ofJsonWith decode (encode config) = .ok config ↔ config.validate = .ok ()) ∧
    (∀ (text : String) (config : Config),
      ofJsonWith decode text = .ok config → config.validate = .ok ()) := by
  refine ⟨fun layout config => ?_, fun config => ?_, fun _ _ hread => ?_⟩
  · intro read
    have hread : decode (layout.text config) = .ok read := hdecode.decode_layout layout config
    refine ⟨fun hvalid => ofJsonWith_eq_ok_iff.2 ⟨hread, hvalid⟩, fun field hzero => ?_,
      validate_eq_ok_or read⟩
    rw [ofJsonWith_of_decode hread, validate_eq_error_iff.2 hzero]
    rfl
  · obtain ⟨layout, hall, htext⟩ := hencode config
    have hread := hdecode.decode_layout layout config
    rw [withFields_of_forall_mem hall, ← htext] at hread
    rw [ofJsonWith_eq_ok_iff, and_iff_right hread]
  · exact (ofJsonWith_eq_ok_iff.1 hread).2

/-- The program's decoder finds the cap in front of the bound on the roots, with blanks: the
greatest bound and no cap are read, and of two zeros the one that is declared first is the error.
What its encoder writes of the first of these, it finds again. -/
theorem ofJson_exact_reordered :
    ReadsObjects decode ∧ WritesObjects text ∧
    ofJson "\x7b\"max_objects\" : null,\n\"stack_max\":18446744073709551615 \x7d" =
      .ok { stackMax := 18446744073709551615 } ∧
    ofJson "\x7b\"max_objects\" : 0,\n\"stack_max\":0 \x7d" = .error (.zero .stackMax) ∧
    ofJson ("\x7b\"stack_max\":18446744073709551615,\"initial_threshold\":8," ++
      "\"max_objects\":null\x7d") = .ok { stackMax := 18446744073709551615 } := by
  let space : Blanks := ⟨[' '], List.forall_mem_singleton.2 rfl⟩
  let cap : Member := { field := .maxObjects, beforeColon := space, beforeValue := space }
  let line : Blanks := ⟨['\n'], List.forall_mem_singleton.2 rfl⟩
  let bound : Member := { field := .stackMax, beforeKey := line, afterValue := space }
  let layout : Layout := { members := [cap, bound], nodup := by decide }
  let greatest : Config := { stackMax := 18446744073709551615 }
  let zeros : Config := { stackMax := 0, maxObjects := some 0 }
  obtain ⟨hlayout, hencoded, -⟩ := ofJson_exact readsObjects_decode writesObjects_text
  refine ⟨readsObjects_decode, writesObjects_text, ?_, ?_, ?_⟩
  · have hread := (hlayout layout greatest).1 rfl
    have htext : layout.text greatest =
      "\x7b\"max_objects\" : null,\n\"stack_max\":18446744073709551615 \x7d" := by decide +kernel
    rwa [htext] at hread
  · have hzero : FirstZero (({} : Config).withFields zeros layout.fields) .stackMax :=
      ⟨rfl, [], [.initialThreshold, .maxObjects], rfl, nofun⟩
    have hread := (hlayout layout zeros).2.1 _ hzero
    have htext : layout.text zeros = "\x7b\"max_objects\" : 0,\n\"stack_max\":0 \x7d" := by
      decide +kernel
    rwa [htext] at hread
  · have hread := (hencoded greatest).2 rfl
    have htext : greatest.text =
        "\x7b\"stack_max\":18446744073709551615,\"initial_threshold\":8," ++
          "\"max_objects\":null\x7d" := by decide +kernel
    rwa [htext] at hread

end RootedHeap.Config
