import Mathlib.Algebra.Order.Ring.Rat
import Mathlib.Data.List.TakeWhile
import OcppGo.Codegen.Overrides

namespace OcppGo
namespace Codegen

open OcppGo.Sequential List

/-!
# Overrides never loosen a field

The tags of a field are read as a conjunction.  A `dive` passes what follows it
on to the elements, and `omitempty` lets a zero value through.  Appending a token
can only take values away, wherever the token lands.  Replacing a bound by a
tighter one of its family takes values away as well.  The loader accepts rows of
these two sorts only, so any succession of accepted rows is strict, whatever list
it is composed onto.
-/

/-! ## Reading tags -/

/-- The whole number a digit run writes. -/
def digitsValue (digits : List Char) : Nat :=
  digits.foldl (fun value digit => 10 * value + (digit.toNat - '0'.toNat)) 0

def unsignedDecimalValue (chars : List Char) : Rat :=
  let fraction := (chars.dropWhile fun char => char ≠ '.').drop 1
  digitsValue (chars.takeWhile fun char => char ≠ '.') +
    digitsValue fraction / 10 ^ fraction.length

/-- The number a decimal text writes. -/
def decimalValue (text : String) : Rat :=
  match text.toList with
  | [] => 0
  | first :: rest =>
    if first = '-' then -unsignedDecimalValue rest else unsignedDecimalValue (first :: rest)

/-- What a validator asks of the values it is given. -/
structure Reading (V : Type) where
  zero : V -> Prop
  /-- The length of a text or the number of items of a list. -/
  size : V -> Nat
  num : V -> Rat
  elements : V -> List V
  /-- What a registered validator makes of a value. -/
  registered : String -> V -> Prop

namespace Reading

variable {V : Type} (reading : Reading V)

/-- A token in front of a value. -/
def holds (token : String) (value : V) : Prop :=
  match tagValue token with
  | none => if token = "required" then ¬ reading.zero value else reading.registered token value
  | some bound =>
    if tagFamily token = "min" then decimalValue bound ≤ reading.size value
    else if tagFamily token = "max" then reading.size value ≤ decimalValue bound
    else if tagFamily token = "gte" then decimalValue bound ≤ reading.num value
    else if tagFamily token = "lte" then reading.num value ≤ decimalValue bound
    else reading.registered token value

/-- The values a list of tags lets through. -/
def accepts : List String -> V -> Prop
  | [], _ => True
  | token :: rest, value =>
    if token = "omitempty" then reading.zero value ∨ accepts rest value
    else if token = "dive" then
      ∀ element, element ∈ reading.elements value -> accepts rest element
    else reading.holds token value ∧ accepts rest value

variable {value : V}

/-- What implies less further on implies less behind a token. -/
theorem accepts_cons {token : String} {rest later : List String}
    (weaker : ∀ {value : V}, reading.accepts later value -> reading.accepts rest value)
    (accepted : reading.accepts (token :: later) value) : reading.accepts (token :: rest) value := by
  unfold accepts at accepted ⊢
  split_ifs at accepted ⊢
  · exact accepted.imp_right weaker
  · exact fun element mem => weaker (accepted element mem)
  · exact ⟨accepted.1, weaker accepted.2⟩

/-- A list of tags that keeps the tokens of another one in front lets fewer values
through. -/
theorem accepts_of_append {base further : List String}
    (accepted : reading.accepts (base ++ further) value) : reading.accepts base value := by
  induction base generalizing value with
  | nil => trivial
  | cons token rest ih => exact reading.accepts_cons ih accepted

/-- A token that constrains the value it stands in front of. -/
def Plain (token : String) : Prop := token ≠ "omitempty" ∧ token ≠ "dive"

theorem accepts_plain {token : String} {rest : List String} (plain : Plain token) :
    reading.accepts (token :: rest) value <->
      reading.holds token value ∧ reading.accepts rest value := by
  rw [accepts, if_neg plain.1, if_neg plain.2]

/-- A plain token may be replaced by a weaker one anywhere in a list. -/
theorem accepts_of_replaced {weaker stronger : String} (plainWeaker : Plain weaker)
    (plainStronger : Plain stronger)
    (implies : ∀ value, reading.holds stronger value -> reading.holds weaker value)
    {front back : List String} (accepted : reading.accepts (front ++ stronger :: back) value) :
    reading.accepts (front ++ weaker :: back) value := by
  induction front generalizing value with
  | nil =>
    rw [nil_append, accepts_plain reading plainStronger] at accepted
    rw [nil_append, accepts_plain reading plainWeaker]
    exact ⟨implies value accepted.1, accepted.2⟩
  | cons token rest ih => exact reading.accepts_cons ih accepted

end Reading

section Strict

variable {V : Type} {reading : Reading V}

/-- A row that replaces a plain token, if any, by one that implies it. -/
def OverrideRow.Strict (reading : Reading V) (row : OverrideRow) : Prop :=
  row.rule = "tighten" -> Reading.Plain row.fromToken ∧ Reading.Plain row.tag ∧
    ∀ value, reading.holds row.tag value -> reading.holds row.fromToken value

variable {base next : List String} {row : OverrideRow}

section

variable (applied : applyTagOverride base row = .ok next)
include applied

/-- A successful tighten has replaced the first occurrence of its token. -/
theorem applyTagOverride_tighten (tighten : row.rule = "tighten") :
    ∃ front back, row.fromToken ∉ front ∧ base = front ++ row.fromToken :: back ∧
      next = front ++ row.tag :: back := by
  unfold applyTagOverride at applied
  dsimp only at applied
  rw [tighten, unless_eq_ok, if_neg (by decide), if_pos rfl] at applied
  obtain ⟨_, applied⟩ := applied
  split at applied
  · cases applied
  · rename_i index found
    cases applied
    obtain ⟨inside, equal, earlier⟩ := findIdx?_eq_some_iff_getElem.mp found
    refine ⟨base.take index, base.drop (index + 1), ?_, ?_, ?_⟩
    · intro mem
      obtain ⟨position, bound, at'⟩ := getElem_of_mem mem
      rw [length_take] at bound
      rw [getElem_take] at at'
      exact earlier position (by omega) (decide_eq_true at')
    · rw [← of_decide_eq_true equal, getElem_cons_drop, take_append_drop]
    · rw [set_eq_take_append_cons_drop, if_pos inside]

/-- A successful row adds its token or replaces one by it. -/
theorem applyTagOverride_ok :
    (row.rule = "add" ∧ next = base ++ [row.tag]) ∨ row.rule = "tighten" := by
  unfold applyTagOverride at applied
  dsimp only at applied
  obtain ⟨_, applied⟩ := unless_eq_ok.mp applied
  split at applied
  · rename_i adds
    cases applied
    exact .inl ⟨adds, rfl⟩
  · exact .inr (when_eq_ok.mp applied).1

theorem OverrideRow.Strict.accepts (strict : row.Strict reading) {value : V}
    (accepted : reading.accepts next value) : reading.accepts base value := by
  rcases applyTagOverride_ok applied with ⟨_, appended⟩ | tighten
  · rw [appended] at accepted
    exact reading.accepts_of_append accepted
  · obtain ⟨plainFrom, plainTag, implies⟩ := strict tighten
    obtain ⟨front, back, _, pre, after⟩ := applyTagOverride_tighten applied tighten
    rw [after] at accepted
    rw [pre]
    exact reading.accepts_of_replaced plainFrom plainTag implies accepted

end

/-- Strict rows compose to a stricter list of tags, whatever they start from. -/
theorem accepts_of_folded {rows : List OverrideRow}
    (strict : ∀ row, row ∈ rows -> row.Strict reading) {composed : List String}
    (folded : rows.foldlM applyTagOverride base = .ok composed) {value : V}
    (accepted : reading.accepts composed value) : reading.accepts base value := by
  induction rows generalizing base with
  | nil =>
    simp only [foldlM_nil, pure_eq_ok] at folded
    rwa [folded]
  | cons row rest ih =>
    rw [foldlM_cons] at folded
    obtain ⟨next, applied, folded⟩ := bind_eq_ok.mp folded
    refine (strict row mem_cons_self).accepts applied ?_
    exact ih (fun later mem => strict later (mem_cons_of_mem _ mem)) folded

end Strict

/-! ## What the loader accepts -/

/-- The order of the numbers that texts of the accepted shape write is kept by
their conversion, which rounds. -/
def Strconv.KeepsOrder (strconv : Strconv) : Prop :=
  ∀ left right leftValue rightValue, boundTagValuePattern left = true ->
    boundTagValuePattern right = true -> strconv.parseFloat left = some leftValue ->
    strconv.parseFloat right = some rightValue -> decimalValue left ≤ decimalValue right ->
    leftValue ≤ rightValue

section Accepted

variable {host : OverrideHost} {path : String} {registeredValidators : List String}

/-- A digit run has no sign and no point. -/
theorem boundTagValuePattern_of_cardinality {value : String}
    (whole : cardinalityTagValuePattern value = true) : boundTagValuePattern value = true := by
  unfold cardinalityTagValuePattern at whole
  unfold boundTagValuePattern
  cases chars : value.toList with
  | nil => simp [chars, isWholeNumber] at whole
  | cons first rest =>
    rw [chars] at whole
    have digits : ∀ char, char ∈ first :: rest -> isDecimalDigit char = true := by
      intro char mem
      rw [isWholeNumber] at whole
      split at whole
      · rename_i zero
        rw [isEmpty_iff.mp whole, mem_singleton] at mem
        rw [mem, zero]
        decide
      · rw [Bool.and_eq_true] at whole
        rcases mem_cons.mp mem with rfl | later
        · exact whole.1
        · exact all_eq_true.mp whole.2 char later
    have noPoint : ∀ char, char ∈ first :: rest -> (decide (char ≠ '.')) = true := by
      intro char mem
      have digit := digits char mem
      refine decide_eq_true fun point => ?_
      rw [point] at digit
      exact absurd digit (by decide)
    have noSign : first ≠ '-' := by
      intro sign
      have digit := digits first mem_cons_self
      rw [sign] at digit
      exact absurd digit (by decide)
    dsimp only
    rw [if_neg noSign, isUnsignedDecimal, takeWhile_eq_self_iff.mpr noPoint,
      dropWhile_eq_nil_iff.mpr noPoint, whole]
    rfl

variable {token key fieldLabel : String}

theorem checkValuedTagToken_ok {family shape : String} {pattern : String -> Bool}
    (checked : checkValuedTagToken host path key fieldLabel token family pattern shape = .ok ()) :
    ∃ value, tagValue token = some value ∧ pattern value = true := by
  unfold checkValuedTagToken at checked
  split at checked
  · cases checked
  · rename_i value valued
    exact ⟨value, valued, (when_eq_ok.mp checked).1⟩

/-- A token of the grammar is `dive`, a bound with a decimal value, or a
registered name. -/
theorem checkTagGrammar_ok
    (checked : checkTagGrammar host path key fieldLabel token registeredValidators = .ok ()) :
    (tagFamily token = "dive" ∧ token = "dive") ∨
      (tagFamily token ∈ boundFamilies ∧
        ∃ value, tagValue token = some value ∧ boundTagValuePattern value = true) ∨
      token ∈ registeredValidators := by
  unfold checkTagGrammar at checked
  dsimp only at checked
  split_ifs at checked with family bare family family mem
  · exact .inl ⟨family, bare⟩
  · obtain ⟨value, valued, shaped⟩ := checkValuedTagToken_ok checked
    refine .inr (.inl ⟨?_, value, valued, boundTagValuePattern_of_cardinality shaped⟩)
    rw [Bool.or_eq_true, decide_eq_true_eq, decide_eq_true_eq] at family
    rcases family with family | family <;> rw [family] <;> decide
  · refine .inr (.inl ⟨?_, checkValuedTagToken_ok checked⟩)
    rw [Bool.or_eq_true, decide_eq_true_eq, decide_eq_true_eq] at family
    rcases family with family | family <;> rw [family] <;> decide
  · exact .inr (.inr mem)

theorem checkTagVocabulary_ok
    (checked : checkTagVocabulary host path key fieldLabel token registeredValidators = .ok ()) :
    token ≠ "required" ∧ token ≠ "omitempty" ∧
      checkTagTokenShape host path key fieldLabel token = .ok () ∧
      checkTagGrammar host path key fieldLabel token registeredValidators = .ok () := by
  unfold checkTagVocabulary at checked
  split at checked
  · cases checked
  · rename_i ordinary
    rw [Bool.or_eq_true, decide_eq_true_eq, decide_eq_true_eq, not_or] at ordinary
    obtain ⟨_, shaped, checked⟩ := bind_eq_ok.mp checked
    exact ⟨ordinary.1, ordinary.2, shaped, checked⟩

/-- What the first pass establishes about a row. -/
structure FirstPassed (host : OverrideHost) (path : String) (ir : IR)
    (registeredValidators : List String) (row : OverrideRow) : Prop where
  named : host.unicode.blank row.defn = false ∧ host.unicode.blank row.property = false
  rule : row.rule = "add" ∨ row.rule = "tighten"
  tag : checkTagVocabulary host path row.key "tag" row.tag registeredValidators = .ok ()
  replaced : row.rule = "tighten" ->
    checkTagVocabulary host path row.key "from" row.fromToken registeredValidators = .ok ()
  reachable : checkReachability path row.key row.defn row.property ir = .ok ()

variable {ir : IR}

theorem FirstPassed.of_validateTagOverrideRow {row : OverrideRecord}
    (validated : validateTagOverrideRow host path ir registeredValidators row = .ok ()) :
    FirstPassed host path ir registeredValidators row.toOverrideRow := by
  unfold validateTagOverrideRow at validated
  simp only [bind_eq_ok] at validated
  obtain ⟨_, identified, _, _, _, _, _, ruled, _, _, _, tag, _, replaced, reachable⟩ := validated
  refine ⟨?_, ?_, tag, fun tighten => ?_, reachable⟩
  · unfold checkRowIdentityFields at identified
    obtain ⟨defn, identified⟩ := unless_eq_ok.mp identified
    have property := (unless_eq_ok.mp identified).1
    exact ⟨Bool.eq_false_of_not_eq_true defn, Bool.eq_false_of_not_eq_true property⟩
  · have known := (when_eq_ok.mp ruled).1
    rwa [Bool.or_eq_true, decide_eq_true_eq, decide_eq_true_eq] at known
  · unfold checkFromVocabulary at replaced
    rw [if_pos tighten] at replaced
    exact replaced

variable {row : OverrideRow}

/-- The replacement of a tighten is a bound of the family of the token it
replaces, and its number is a strictly tighter one. -/
theorem checkTightenDirection_ok {family : String}
    (checked : checkTightenDirection host path key family row = .ok ()) :
    ∃ fromValue toValue, parseNumericTagValue host row.fromToken = some fromValue ∧
      parseNumericTagValue host row.tag = some toValue ∧
      if family = "gte" ∨ family = "min" then fromValue < toValue else toValue < fromValue := by
  unfold checkTightenDirection at checked
  dsimp only at checked
  split at checked
  · rename_i fromValue toValue parsedFrom parsedTo
    refine ⟨fromValue, toValue, parsedFrom, parsedTo, ?_⟩
    simp only [Bool.or_eq_true, decide_eq_true_eq] at checked
    split at checked
    · rename_i floor
      rw [if_pos floor]
      exact (when_eq_ok.mp checked).1
    · rename_i ceiling
      rw [if_neg ceiling]
      exact (when_eq_ok.mp checked).1
  · cases checked

theorem ownershipFamily_eq_tagFamily
    (other : ownershipFamily registeredValidators token ≠ enumValueSetFamily) :
    token ∉ registeredValidators ∧ ownershipFamily registeredValidators token = tagFamily token := by
  unfold ownershipFamily at other ⊢
  split
  · rename_i registered
    rw [if_pos registered] at other
    exact absurd rfl other
  · rename_i unregistered
    exact ⟨unregistered, rfl⟩

/-- A tighten that passes both passes replaces a bound by a tighter one of the
same family. -/
theorem FirstPassed.tightens (passed : FirstPassed host path ir registeredValidators row)
    (tighten : row.rule = "tighten")
    (checked : checkTightenReplacement host path row.key row registeredValidators = .ok ()) :
    tagFamily row.fromToken ∈ boundFamilies ∧ tagFamily row.tag = tagFamily row.fromToken ∧
      row.tag ∉ registeredValidators ∧ row.fromToken ∉ registeredValidators ∧
      checkTightenDirection host path row.key (tagFamily row.fromToken) row = .ok () := by
  unfold checkTightenReplacement at checked
  dsimp only at checked
  obtain ⟨crossed, checked⟩ := unless_eq_ok.mp checked
  have same := not_not.mp crossed
  obtain ⟨changed, checked⟩ := unless_eq_ok.mp checked
  split at checked
  · rename_i bound
    have other : ownershipFamily registeredValidators row.fromToken ≠ enumValueSetFamily := by
      intro equal
      rw [equal] at bound
      exact absurd bound (by decide)
    obtain ⟨fromUnregistered, fromFamily⟩ := ownershipFamily_eq_tagFamily other
    obtain ⟨tagUnregistered, tagFamilyEq⟩ := ownershipFamily_eq_tagFamily (same ▸ other)
    rw [fromFamily] at bound checked
    exact ⟨bound, by rw [← tagFamilyEq, same, fromFamily], tagUnregistered, fromUnregistered, checked⟩
  · -- the grammar leaves `dive` alone, which nothing of its family can replace
    rename_i notBound
    have fromUnregistered := (unless_eq_ok.mp checked).1
    have fromFamily : ownershipFamily registeredValidators row.fromToken =
        tagFamily row.fromToken := if_neg fromUnregistered
    rw [fromFamily] at notBound same
    obtain ⟨_, _, _, grammar⟩ := checkTagVocabulary_ok (passed.replaced tighten)
    rcases checkTagGrammar_ok grammar with ⟨family, dive⟩ | ⟨bound, _⟩ | registered
    · rw [family] at same
      have other : ownershipFamily registeredValidators row.tag ≠ enumValueSetFamily := by
        rw [same]
        decide
      obtain ⟨tagUnregistered, tagFamilyEq⟩ := ownershipFamily_eq_tagFamily other
      rw [tagFamilyEq] at same
      obtain ⟨_, _, _, tagGrammar⟩ := checkTagVocabulary_ok passed.tag
      rcases checkTagGrammar_ok tagGrammar with ⟨_, bare⟩ | ⟨bound, _⟩ | registered
      · exact absurd (bare.trans dive.symm) changed
      · rw [same] at bound
        exact absurd bound (by decide)
      · exact absurd registered tagUnregistered
    · exact absurd bound notBound
    · exact absurd registered fromUnregistered

theorem plain_of_boundFamily (bound : tagFamily token ∈ boundFamilies) : Reading.Plain token := by
  constructor
  · intro optional
    rw [optional] at bound
    exact absurd bound (by decide)
  · intro dive
    rw [dive] at bound
    exact absurd bound (by decide)

/-- The value of a bound token that passes the grammar has the decimal shape. -/
theorem boundValue_of_vocabulary
    (checked : checkTagVocabulary host path key fieldLabel token registeredValidators = .ok ())
    (unregistered : token ∉ registeredValidators) (bound : tagFamily token ∈ boundFamilies) :
    ∃ value, tagValue token = some value ∧ boundTagValuePattern value = true := by
  obtain ⟨_, _, _, grammar⟩ := checkTagVocabulary_ok checked
  rcases checkTagGrammar_ok grammar with ⟨family, _⟩ | ⟨_, valued⟩ | registered
  · rw [family] at bound
    exact absurd bound (by decide)
  · exact valued
  · exact absurd registered unregistered

/-- A bound with a tighter number implies the other one. -/
theorem holds_of_tighter {V : Type} {reading : Reading V} {replacement : String}
    {value bound : String} (family : tagFamily token ∈ boundFamilies)
    (same : tagFamily replacement = tagFamily token) (valued : tagValue token = some value)
    (bounded : tagValue replacement = some bound)
    (tighter : if tagFamily token = "gte" ∨ tagFamily token = "min" then decimalValue value ≤
      decimalValue bound else decimalValue bound ≤ decimalValue value) (candidate : V)
    (holds : reading.holds replacement candidate) : reading.holds token candidate := by
  unfold Reading.holds at holds ⊢
  rw [bounded, same] at holds
  rw [valued]
  dsimp only at holds ⊢
  simp only [boundFamilies, mem_cons, not_mem_nil, or_false] at family
  rcases family with family | family | family | family
  · simp only [family, String.reduceEq, true_or, if_true, if_false] at holds tighter ⊢
    exact tighter.trans holds
  · simp only [family, or_true, if_true] at holds tighter ⊢
    exact tighter.trans holds
  · simp only [family, String.reduceEq, or_self, if_true, if_false] at holds tighter ⊢
    exact holds.trans tighter
  · simp only [family, String.reduceEq, or_self, if_true, if_false] at holds tighter ⊢
    exact holds.trans tighter

theorem FirstPassed.strict {V : Type} {reading : Reading V} (keepsOrder : host.strconv.KeepsOrder)
    (passed : FirstPassed host path ir registeredValidators row)
    (checked : row.rule = "tighten" -> checkTightenReplacement host path row.key row
      registeredValidators = .ok ()) : row.Strict reading := by
  intro tighten
  obtain ⟨bound, same, tagUnregistered, fromUnregistered, direction⟩ :=
    passed.tightens tighten (checked tighten)
  have tagBound : tagFamily row.tag ∈ boundFamilies := same ▸ bound
  refine ⟨plain_of_boundFamily bound, plain_of_boundFamily tagBound, ?_⟩
  obtain ⟨value, valued, shaped⟩ :=
    boundValue_of_vocabulary (passed.replaced tighten) fromUnregistered bound
  obtain ⟨replacement, replaced, reshaped⟩ :=
    boundValue_of_vocabulary passed.tag tagUnregistered tagBound
  obtain ⟨fromNumber, toNumber, parsedFrom, parsedTo, moved⟩ := checkTightenDirection_ok direction
  unfold parseNumericTagValue at parsedFrom parsedTo
  rw [valued] at parsedFrom
  rw [replaced] at parsedTo
  refine holds_of_tighter bound same valued replaced ?_
  split at moved
  · rename_i floor
    rw [if_pos floor]
    by_contra lower
    exact absurd moved (not_lt.mpr
      (keepsOrder _ _ _ _ reshaped shaped parsedTo parsedFrom (le_of_not_ge lower)))
  · rename_i ceiling
    rw [if_neg ceiling]
    by_contra higher
    exact absurd moved (not_lt.mpr
      (keepsOrder _ _ _ _ shaped reshaped parsedFrom parsedTo (le_of_not_ge higher)))

end Accepted

/-! ## Loaded documents -/

section Loaded

variable {host : OverrideHost} {path : String} {registeredValidators : List String}

variable {row : OverrideRow} {state : TargetState}

theorem checkRowRule_tighten (tighten : row.rule = "tighten")
    (checked : checkRowRule host path registeredValidators state row = .ok ()) :
    checkTightenSource host path row.key row state.mapping state.tokens registeredValidators =
        .ok () ∧
      checkTightenOwnership path row.key row (ownershipFamily registeredValidators row.tag)
        (rowScope state.tokens row) state.owners = .ok () := by
  unfold checkRowRule at checked
  dsimp only at checked
  rw [if_pos tighten] at checked
  obtain ⟨_, source, owned⟩ := bind_eq_ok.mp checked
  exact ⟨source, owned⟩

theorem checkTightenSource_ok {key : String} {mapping : OverrideMapping} {tokens : List String}
    (checked : checkTightenSource host path key row mapping tokens registeredValidators = .ok ()) :
    (scopeOfToken tokens row.fromToken).2 ≤ 1 ∧
      checkTightenReplacement host path key row registeredValidators = .ok () := by
  unfold checkTightenSource at checked
  dsimp only at checked
  obtain ⟨single, checked⟩ := unless_eq_ok.mp (unless_eq_ok.mp checked).2
  exact ⟨not_lt.mp single, checked⟩

/-- What one step of the second pass has checked and changed. -/
theorem secondPassRow_ok {next : TargetState}
    (stepped : secondPassRow host path registeredValidators state row = .ok next) :
    checkRowRule host path registeredValidators state row = .ok () ∧
      applyTagOverride state.tokens row = .ok next.tokens ∧
      next.owners = (ownershipKey (rowScope state.tokens row)
        (ownershipFamily registeredValidators row.tag), ⟨row.tag, row.key⟩) :: state.owners := by
  unfold secondPassRow at stepped
  simp only [bind_eq_ok] at stepped
  obtain ⟨_, _, _, _, _, ruled, tokens, applied, stepped⟩ := stepped
  obtain rfl := pure_eq_ok.mp stepped
  exact ⟨ruled, mapError_eq_ok.mp applied, rfl⟩

/-- The walk of the second pass over the rows that were loaded. -/
def SecondPassed (host : OverrideHost) (path : String) (mappings : OverrideMappings)
    (registeredValidators : List String) (rows : List OverrideRow)
    (states : List (OverrideTarget × TargetState)) : Prop :=
  foldKeyed OverrideRow.target (startTarget path mappings registeredValidators)
    (secondPassRow host path registeredValidators) rows = .ok states

variable {mappings : OverrideMappings}

theorem loadOverrides_ok {document loaded : OverrideConfig} {ir : IR}
    (accepted : loadOverrides host path document ir (some mappings) registeredValidators = .ok
      loaded) :
    (∀ row, row ∈ loaded.rows -> FirstPassed host path ir registeredValidators row) ∧
      ∃ states, SecondPassed host path mappings registeredValidators loaded.rows states := by
  unfold loadOverrides at accepted
  simp only [bind_eq_ok] at accepted
  obtain ⟨_, _, _, validated, _, _, _, _, _, second, accepted⟩ := accepted
  obtain rfl := pure_eq_ok.mp accepted
  obtain ⟨states, walked, _⟩ := bind_eq_ok.mp second
  refine ⟨fun row mem => ?_, states, walked⟩
  obtain ⟨record, listed, rfl⟩ := mem_map.mp mem
  have stamped := (mem_insertionSort _).mp listed
  exact FirstPassed.of_validateTagOverrideRow (forM_ok validated stamped)

/-- The rows of one target. -/
def rowsOf (target : OverrideTarget) (rows : List OverrideRow) : List OverrideRow :=
  rows.filter fun row => row.target = target

theorem startTarget_ok (started : startTarget path mappings registeredValidators row = .ok state) :
    ∃ mapping, mappings.lookup row.target = some mapping ∧
      state = ⟨mapping, baseFamilyOwners mapping.baseTags registeredValidators,
        mapping.baseTags⟩ := by
  unfold startTarget at started
  split at started
  · cases started
  · rename_i mapping found
    cases started
    exact ⟨mapping, found, rfl⟩

variable {rows : List OverrideRow} {states : List (OverrideTarget × TargetState)}

section

variable (passed : SecondPassed host path mappings registeredValidators rows states)
include passed

/-- The rows of the target of a row have been walked from the base tags of its
mapping. -/
theorem SecondPassed.ran (mem : row ∈ rows) :
    ∃ mapping final, mappings.lookup row.target = some mapping ∧
      (rowsOf row.target rows).foldlM (secondPassRow host path registeredValidators)
        ⟨mapping, baseFamilyOwners mapping.baseTags registeredValidators, mapping.baseTags⟩ =
          .ok final ∧
      states.lookup row.target = some final := by
  have alone := foldKeyed_ok passed row.target
  unfold RanAlone at alone
  have own : row ∈ rowsOf row.target rows := mem_filter.mpr ⟨mem, decide_eq_true rfl⟩
  unfold rowsOf at own ⊢
  cases listed : rows.filter fun other => other.target = row.target with
  | nil =>
    rw [listed] at own
    cases own
  | cons first rest =>
    simp only [listed] at alone
    obtain ⟨initial, final, started, folded, kept⟩ := alone
    have same : first.target = row.target := by
      have inside : first ∈ rows.filter fun other => other.target = row.target :=
        listed ▸ mem_cons_self
      exact of_decide_eq_true (mem_filter.mp inside).2
    obtain ⟨mapping, found, rfl⟩ := startTarget_ok started
    exact ⟨mapping, final, same ▸ found, folded, kept⟩

/-- The rows of a target compose onto the base tags of its mapping. -/
theorem SecondPassed.composes {target : OverrideTarget} {mapping : OverrideMapping}
    (found : mappings.lookup target = some mapping) :
    ∃ composed, (rowsOf target rows).foldlM applyTagOverride mapping.baseTags =
      .ok composed := by
  cases listed : rowsOf target rows with
  | nil => exact ⟨_, rfl⟩
  | cons first rest =>
    have inside : first ∈ rowsOf target rows := listed ▸ mem_cons_self
    have same : first.target = target := of_decide_eq_true (mem_filter.mp inside).2
    obtain ⟨mapping', final, found', folded, _⟩ := passed.ran (mem_filter.mp inside).1
    rw [same] at found' folded
    cases found.symm.trans found'
    rw [← listed]
    exact ⟨final.tokens, foldlM_project TargetState.tokens
      (fun _ _ _ stepped => (secondPassRow_ok stepped).2.1) folded⟩

end

theorem SecondPassed.strict {V : Type} {reading : Reading V} {ir : IR}
    (keepsOrder : host.strconv.KeepsOrder)
    (passed : SecondPassed host path mappings registeredValidators rows states)
    (mem : row ∈ rows) (first : FirstPassed host path ir registeredValidators row) :
    row.Strict reading := by
  obtain ⟨_, _, _, folded, _⟩ := passed.ran mem
  obtain ⟨pre, after, stepped⟩ :=
    exists_round folded (mem_filter.mpr ⟨mem, decide_eq_true rfl⟩)
  refine first.strict keepsOrder fun tighten => ?_
  have source := (checkRowRule_tighten tighten (secondPassRow_ok stepped).1).1
  exact (checkTightenSource_ok source).2

end Loaded

/-! ## The mappings of every property -/

section Built

variable {strconv : Strconv} {config : TransformConfig} {ir : IR}

/-- The mapping recorded for a property. -/
def overrideMappingOf (mapped : FieldMapping) : OverrideMapping :=
  ⟨splitValidateTag mapped.validateTag, mapped.goType.text, mapped.fieldName⟩

/-- An entry of the mappings: a property of a definition that is not an enum, with
what it is mapped to. -/
def MappingOf (strconv : Strconv) (config : TransformConfig) (ir : IR) (defn : Definition)
    (property : Property) (entry : OverrideTarget × OverrideMapping) : Prop :=
  ∃ mapped, mapProperty strconv config defn property ir.defns [] = .ok mapped ∧
    entry = (⟨defn.name, property.facets.name⟩, overrideMappingOf mapped)

variable {mappings : OverrideMappings}

theorem addPropertyMapping_ok {defn : Definition} {property : Property}
    {next : OverrideMappings}
    (added : addPropertyMapping strconv config ir defn mappings property = .ok next) :
    ∃ entry, MappingOf strconv config ir defn property entry ∧
      next = entry :: mappings := by
  unfold addPropertyMapping at added
  obtain ⟨mapped, succeeded, added⟩ := bind_eq_ok.mp added
  simp only [pure_eq_ok] at added
  exact ⟨_, ⟨mapped, mapError_eq_ok.mp succeeded, rfl⟩, added.symm⟩

/-- What the properties of one definition add to the mappings. -/
theorem addDefinitionMappings_ok {defn : Definition} {next : OverrideMappings}
    (added : addDefinitionMappings strconv config ir mappings defn = .ok next) :
    (∀ entry, entry ∈ next -> entry ∈ mappings ∨ defn.kind ≠ .enum ∧
      ∃ property, property ∈ defn.properties ∧
        MappingOf strconv config ir defn property entry) ∧
      mappings ⊆ next ∧
      (defn.kind ≠ .enum -> ∀ property, property ∈ defn.properties ->
        ∃ entry, entry ∈ next ∧ MappingOf strconv config ir defn property entry) := by
  unfold addDefinitionMappings at added
  split at added
  · rename_i enumerated
    cases added
    exact ⟨fun entry mem => .inl mem, Subset.refl _,
      fun structured => absurd enumerated structured⟩
  · rename_i structured
    have grown := foldlM_ok
      (fun taken (reached : OverrideMappings) =>
        (∀ entry, entry ∈ reached -> entry ∈ mappings ∨ ∃ property, property ∈ taken ∧
          MappingOf strconv config ir defn property entry) ∧
        mappings ⊆ reached ∧
        ∀ property, property ∈ taken ->
          ∃ entry, entry ∈ reached ∧ MappingOf strconv config ir defn property entry)
      (fun taken property reached after holds stepped => by
        obtain ⟨entry, maps, rfl⟩ := addPropertyMapping_ok stepped
        refine ⟨fun other mem => ?_, subset_cons_of_subset _ holds.2.1,
          fun other mem => ?_⟩
        · rcases mem_cons.mp mem with rfl | earlier
          · exact .inr ⟨property, by simp, maps⟩
          · rcases holds.1 other earlier with pre | ⟨origin, listed, maps⟩
            · exact .inl pre
            · exact .inr ⟨origin, mem_append_left _ listed, maps⟩
        · revert other
          refine forall_mem_append.mpr ⟨?_, forall_mem_singleton.mpr ⟨entry, mem_cons_self, maps⟩⟩
          intro other earlier
          obtain ⟨found, listed, maps⟩ := holds.2.2 other earlier
          exact ⟨found, mem_cons_of_mem _ listed, maps⟩)
      (by simp) added
    exact ⟨fun entry mem => (grown.1 entry mem).imp_right fun origin => ⟨structured, origin⟩,
      grown.2.1, fun _ => grown.2.2⟩

/-- The mappings hold one entry for each property of each definition that is not
an enum, and no other. -/
theorem buildOverrideMappings_ok {registered : List String}
    (built : buildOverrideMappings strconv config ir = .ok (mappings, registered)) :
    (∀ entry, entry ∈ mappings -> ∃ defn property, defn ∈ ir.defns ∧
      defn.kind ≠ .enum ∧ property ∈ defn.properties ∧
      MappingOf strconv config ir defn property entry) ∧
    (∀ defn property, defn ∈ ir.defns -> defn.kind ≠ .enum ->
      property ∈ defn.properties ->
      ∃ entry, entry ∈ mappings ∧ MappingOf strconv config ir defn property entry) := by
  unfold buildOverrideMappings at built
  obtain ⟨reached, folded, built⟩ := bind_eq_ok.mp built
  obtain ⟨names, _, built⟩ := bind_eq_ok.mp built
  simp only [pure_eq_ok, Prod.mk.injEq] at built
  obtain ⟨rfl, _⟩ := built
  have grown := foldlM_ok
    (fun taken (reached : OverrideMappings) =>
      (∀ entry, entry ∈ reached -> ∃ defn property, defn ∈ taken ∧
        defn.kind ≠ .enum ∧ property ∈ defn.properties ∧
        MappingOf strconv config ir defn property entry) ∧
      (∀ defn property, defn ∈ taken -> defn.kind ≠ .enum ->
        property ∈ defn.properties ->
        ∃ entry, entry ∈ reached ∧ MappingOf strconv config ir defn property entry))
    (fun taken defn reached after holds stepped => by
      obtain ⟨origin, kept, complete⟩ := addDefinitionMappings_ok stepped
      constructor
      · intro entry mem
        rcases origin entry mem with earlier | ⟨structured, property, listed, maps⟩
        · obtain ⟨source, property, listed, rest⟩ := holds.1 entry earlier
          exact ⟨source, property, mem_append_left _ listed, rest⟩
        · exact ⟨defn, property, by simp, structured, listed, maps⟩
      · intro source property listed structured mem
        rcases mem_append.mp listed with earlier | last
        · obtain ⟨entry, found, maps⟩ := holds.2 source property earlier structured mem
          exact ⟨entry, kept found, maps⟩
        · rw [mem_singleton.mp last] at structured mem ⊢
          exact complete structured property mem)
    (by simp) folded
  exact grown

end Built

/-- A key that occurs is found. -/
theorem exists_lookup {κ σ : Type} [DecidableEq κ] {entries : List (κ × σ)} {key : κ} {value : σ}
    (mem : (key, value) ∈ entries) : ∃ found, entries.lookup key = some found := by
  cases searched : entries.lookup key with
  | some found => exact ⟨found, rfl⟩
  | none =>
    have absent := lookup_eq_none_iff.mp searched (key, value) mem
    simp at absent

/-- For every document the loader accepts and every property of a definition that is
not an enum, the rows of the property compose onto its base tags, and the composed
tags accept no value that the base tags refuse. -/
theorem overrides_never_loosen {V : Type} (reading : Reading V) {host : OverrideHost}
    {path : String} {config : TransformConfig} {ir : IR} {mappings : OverrideMappings}
    {registered : List String} {document loaded : OverrideConfig}
    (keepsOrder : host.strconv.KeepsOrder)
    (built : buildOverrideMappings host.strconv config ir = .ok (mappings, registered))
    (accepted : loadOverrides host path document ir (some mappings) registered = .ok loaded)
    (defn : Definition) (declared : defn ∈ ir.defns)
    (structured : defn.kind ≠ .enum) (property : Property)
    (mem : property ∈ defn.properties) :
    (∃ mapping composed,
      mappings.lookup ⟨defn.name, property.facets.name⟩ = some mapping ∧
      (rowsOf ⟨defn.name, property.facets.name⟩ loaded.rows).foldlM applyTagOverride
        mapping.baseTags = .ok composed ∧
      ∀ value, reading.accepts composed value -> reading.accepts mapping.baseTags value) ∧
    (∃ mapped, mapProperty host.strconv config defn property ir.defns [] =
        .ok mapped ∧
      ∀ composed, (rowsOf ⟨defn.name, property.facets.name⟩ loaded.rows).foldlM
          applyTagOverride (splitValidateTag mapped.validateTag) = .ok composed ->
        ∀ value, reading.accepts composed value ->
          reading.accepts (splitValidateTag mapped.validateTag) value) := by
  obtain ⟨first, states, second⟩ := loadOverrides_ok accepted
  have strict : ∀ row,
      row ∈ rowsOf ⟨defn.name, property.facets.name⟩ loaded.rows -> row.Strict reading := by
    intro row listed
    have row_mem := (mem_filter.mp listed).1
    exact second.strict keepsOrder row_mem (first row row_mem)
  obtain ⟨_, entry_mem, mapped, succeeded, rfl⟩ :=
    (buildOverrideMappings_ok built).2 defn property declared structured mem
  obtain ⟨mapping, found⟩ := exists_lookup entry_mem
  obtain ⟨composed, folded⟩ := second.composes found
  exact ⟨⟨mapping, composed, found, folded, fun value => accepts_of_folded strict folded⟩,
    mapped, succeeded, fun composed folded value => accepts_of_folded strict folded⟩

/-- A host that converts numbers without rounding. -/
def exactHost : OverrideHost where
  strconv := ⟨fun text => some (digitsValue text.toList), fun text => some (decimalValue text),
    fun _ => "", fun _ => ""⟩
  unicode := .ascii
  isPrint := fun char => '!' ≤ char && char ≤ '~'
  parseUint := fun text => some (digitsValue text.toList)
  parseDate := fun _ => none

theorem exactHost_keepsOrder : exactHost.strconv.KeepsOrder := by
  intro left right leftValue rightValue _ _ leftParsed rightParsed order
  cases leftParsed
  cases rightParsed
  exact order

/-- An optional text of at most ten characters. -/
def noteText : Facets :=
  { Facets.plain "text" "#/definitions/NoteType/properties/text" false with
    type := "string", maxLength := some 10 }

def noteDefinition : Definition where
  name := "NoteType"
  kind := .object
  properties := [.single noteText]
  values := []
  additionalProperties := none
  reserved := false
  occurrences := 1
  files := []

def noteIR : IR := ⟨[noteDefinition], []⟩

def noteRecord (rule tag fromToken : String) : OverrideRecord where
  defn := "NoteType"
  property := "text"
  rule := rule
  tag := tag
  fromToken := fromToken
  version := ""
  rationale := "the field is shown on one line"
  source := "specification"
  author := "maintainer"
  date := "2024-01-01"

/-- One row that adds a bound, and one that tightens the bound of the schema. -/
def noteDocument : OverrideConfig where
  version := "v201"
  tagOverrides := [noteRecord "add" "min=2" "", noteRecord "tighten" "max=5" "max=10"]
  dedupAllowlist := []

def textReading : Reading String where
  zero := fun text => text = ""
  size := String.length
  num := fun _ => 0
  elements := fun _ => []
  registered := fun _ _ => True

theorem overrides_never_loosen_note :
    ∃ mappings registered loaded mapping composed,
      buildOverrideMappings exactHost.strconv ⟨.ascii, []⟩ noteIR = .ok (mappings, registered) ∧
      loadOverrides exactHost "overrides.yaml" noteDocument noteIR (some mappings) registered =
        .ok loaded ∧
      loaded.rows.length = 2 ∧
      mappings.lookup ⟨"NoteType", "text"⟩ = some mapping ∧
      (rowsOf ⟨"NoteType", "text"⟩ loaded.rows).foldlM applyTagOverride mapping.baseTags =
        .ok composed ∧
      ∀ text, textReading.accepts composed text -> textReading.accepts mapping.baseTags text := by
  have run : succeeds (buildOverrideMappings exactHost.strconv ⟨.ascii, []⟩ noteIR) (fun built =>
      succeeds (loadOverrides exactHost "overrides.yaml" noteDocument noteIR (some built.1) built.2)
        fun loaded => loaded.rows.length = 2) = true := by decide +kernel
  obtain ⟨⟨mappings, registered⟩, built, run⟩ := exists_of_succeeds run
  obtain ⟨loaded, accepted, two⟩ := exists_of_succeeds run
  obtain ⟨⟨mapping, composed, found, folded, strict⟩, _⟩ :=
    overrides_never_loosen textReading exactHost_keepsOrder built accepted
      noteDefinition mem_cons_self (by decide) (.single noteText) mem_cons_self
  exact ⟨mappings, registered, loaded, mapping, composed, built, accepted, of_decide_eq_true two,
    found, folded, strict⟩

end Codegen
end OcppGo
