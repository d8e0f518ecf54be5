import EntityScaffold.Json.Reader
import EntityScaffold.Proofs.Attempt
import EntityScaffold.Value.Printed

/-
What reading a JSON text can end with. A fault of size has its reason in the text: a run of too many
digits, or too many opening brackets. And a value that is read keeps within the limits, so that it can
be written out again to the depth to which it was read.
-/

namespace EntityScaffold.Json

/-! ### Sizes -/

/-- Somewhere in a text there are more digits in a row than an integer may have. -/
def HasLongRun (chars : List Char) : Prop :=
  ∃ run, run <:+: chars ∧ (∀ char ∈ run, Decimal.isDigitOf 10 char = true) ∧
    Decimal.digitLimit < run.length

/-- How many lists and objects could begin in a text. -/
def openings (chars : List Char) : Nat := chars.countP fun char => char == '[' || char == '\x7b'

variable {chars whole : List Char}

theorem HasLongRun.of_suffix (long : HasLongRun chars) (suffix : chars <:+ whole) :
    HasLongRun whole := by
  obtain ⟨run, within, digits, length⟩ := long
  exact ⟨run, within.trans suffix.isInfix, digits, length⟩

theorem openings_le_of_suffix (suffix : chars <:+ whole) : openings chars ≤ openings whole :=
  suffix.sublist.countP_le

/-- Why reading stopped: a fault of size has its reason in the text. -/
def Fault.IsCausedBy (depth : Nat) (chars : List Char) : Fault → Prop
  | .tooManyDigits _ => HasLongRun chars
  | .tooDeep => depth < openings chars
  | _ => True

theorem Fault.IsCausedBy.of_suffix {fault : Fault} {depth : Nat}
    (caused : fault.IsCausedBy depth chars) (suffix : chars <:+ whole) :
    fault.IsCausedBy depth whole := by
  cases fault with
  | tooManyDigits count => exact HasLongRun.of_suffix caused suffix
  | tooDeep => exact Nat.lt_of_lt_of_le caused (openings_le_of_suffix suffix)
  | _ => trivial

/-! ### Results of reading -/

/-- Reading from a cursor gives a good value and stops further on, or it stops for a reason. -/
def ReadsWell {α : Type} (depth : Nat) (cursor : Cursor) (good : α → Prop) :
    Except Fault (α × Cursor) → Prop
  | .ok (value, next) => next.rest <:+ cursor.rest ∧ good value
  | .error fault => fault.IsCausedBy depth cursor.rest

namespace ReadsWell

variable {α β : Type} {depth : Nat} {cursor next : Cursor} {good : α → Prop} {better : β → Prop}

theorem from_suffix {result : Except Fault (α × Cursor)} (reads : ReadsWell depth next good result)
    (suffix : next.rest <:+ cursor.rest) : ReadsWell depth cursor good result := by
  cases result with
  | ok read => exact ⟨reads.1.trans suffix, reads.2⟩
  | error fault => exact Fault.IsCausedBy.of_suffix reads suffix

theorem bind {first : Except Fault (α × Cursor)} {later : α × Cursor → Except Fault (β × Cursor)}
    (reads : ReadsWell depth cursor good first)
    (others : ∀ value behind, behind.rest <:+ cursor.rest → good value →
      ReadsWell depth cursor better (later (value, behind))) :
    ReadsWell depth cursor better (first >>= later) := by
  cases first with
  | ok read => exact others read.1 read.2 reads.1 reads.2
  | error fault => exact reads

end ReadsWell

theorem Cursor.rest_advance (cursor : Cursor) (count : Nat) :
    (cursor.advance count).rest <:+ cursor.rest := List.drop_suffix count cursor.rest

theorem Cursor.rest_skipBlanks (cursor : Cursor) : cursor.skipBlanks.rest <:+ cursor.rest :=
  cursor.rest_advance _

/-! ### Texts -/

/-- A point in front of a text that is read some characters further on. -/
theorem ReadsWell.behind {depth position later : Nat} (count : Nat) {point : CodePoint}
    {result : Except Fault (CodeText × Cursor)}
    (reads : ReadsWell depth ⟨later, chars.drop count⟩ (fun _ => True) result) :
    ReadsWell depth ⟨position, chars⟩ (fun _ => True) (do
      let (content, cursor) ← result
      return (point :: content, cursor)) :=
  (reads.from_suffix (List.drop_suffix count chars)).bind fun _ _ suffix _ => ⟨suffix, trivial⟩

theorem readText_readsWell (depth start position : Nat) (chars : List Char) :
    ReadsWell depth ⟨position, chars⟩ (fun _ => True) (readText start position chars) := by
  fun_induction readText start position chars with
  | case2 position rest => exact ⟨List.suffix_cons _ _, trivial⟩
  | case5 => next later => exact later.behind 12
  | case6 => next later => exact later.behind 6
  | case7 => next later => exact later.behind 6
  | case8 => next later => exact later.behind 6
  | case11 => next later => exact later.behind 2
  | case14 => next later => exact later.behind 1
  | _ => trivial

theorem readQuoted_readsWell (limits : Limits) (depth : Nat) {cursor : Cursor} {rest : List Char}
    (opens : cursor.rest = '\x22' :: rest) :
    ReadsWell depth cursor (fun _ => True) (readQuoted limits cursor.position rest) := by
  have inside := readText_readsWell depth cursor.position (cursor.position + 1) rest
  have suffix : rest <:+ cursor.rest := opens ▸ List.suffix_cons _ _
  refine (inside.from_suffix suffix).bind fun content next reached _ => ?_
  dsimp only
  split
  · exact ⟨reached, trivial⟩
  · trivial

/-! ### Values within limits -/

/-- A value has at most so many lists and objects inside each other, and none of its integers has more
digits than may be read. -/
inductive IsWithin : (depth : Nat) → Json → Prop where
  | null (depth : Nat) : IsWithin depth .null
  | bool (depth : Nat) (value : Bool) : IsWithin depth (.bool value)
  | int (depth : Nat) {value : Int}
      (short : (Nat.toDigits 10 value.natAbs).length ≤ Decimal.digitLimit) :
      IsWithin depth (.int value)
  | float (depth : Nat) (value : Float) : IsWithin depth (.float value)
  | text (depth : Nat) (content : CodeText) : IsWithin depth (.text content)
  | list {depth : Nat} {items : List Json} (each : ∀ item ∈ items, IsWithin depth item) :
      IsWithin (depth + 1) (.list items)
  | object {depth : Nat} {members : List (CodeText × Json)}
      (each : ∀ member ∈ members, IsWithin depth member.2) : IsWithin (depth + 1) (.object members)

section

variable {unfold : Nat → Nat → Except Value.TextFault (List Char)} {limit : Nat}

theorem exists_quotedItems_eq {items : List Json} (isFirst : Bool)
    (each : ∀ item ∈ items, ∃ chars, Value.quotedWith unfold limit item.toValue = .ok chars) :
    ∃ chars, Value.quotedItems unfold limit isFirst (toValues items) = .ok chars := by
  induction items generalizing isFirst with
  | nil => exact ⟨[], rfl⟩
  | cons item rest ih =>
      obtain ⟨⟨chars, written⟩, others⟩ := List.forall_mem_cons.mp each
      obtain ⟨behind, othersWritten⟩ := ih false others
      refine ⟨(if isFirst then [] else [',', ' ']) ++ chars ++ behind, ?_⟩
      rw [toValues, Value.quotedItems, written, othersWritten]
      rfl

theorem exists_quotedEntries_eq {members : List (CodeText × Json)} (isFirst : Bool)
    (each : ∀ member ∈ members, ∃ chars,
      Value.quotedWith unfold limit member.2.toValue = .ok chars) :
    ∃ chars, Value.quotedEntries unfold limit isFirst (toEntries members) = .ok chars := by
  induction members generalizing isFirst with
  | nil => exact ⟨[], rfl⟩
  | cons entry rest ih =>
      obtain ⟨name, item⟩ := entry
      obtain ⟨⟨chars, written⟩, others⟩ := List.forall_mem_cons.mp each
      obtain ⟨behind, othersWritten⟩ := ih false others
      have named : Value.quotedWith unfold limit (.text name) =
          .ok (Text.quotedPoints (name.map CodePoint.value)) := by
        rw [Value.quotedWith]
      refine ⟨(if isFirst then [] else [',', ' ']) ++ Text.quotedPoints (name.map CodePoint.value) ++
        [':', ' '] ++ chars ++ behind, ?_⟩
      rw [toEntries, Value.quotedEntries, named, written, othersWritten]
      rfl

/-- A value within a depth has a written form wherever there is room for that depth. -/
theorem IsWithin.exists_quotedWith_eq {depth : Nat} {json : Json} (within : json.IsWithin depth)
    (enough : depth ≤ limit) : ∃ chars, Value.quotedWith unfold limit json.toValue = .ok chars := by
  induction within generalizing limit with
  | null => exact ⟨_, by rw [toValue, Value.quotedWith]⟩
  | bool => exact ⟨_, by rw [toValue, Value.quotedWith]⟩
  | @int _ value short =>
      rw [← Nat.toList_repr, ← Nat.toString_eq_repr] at short
      exact ⟨_, by rw [toValue, Value.quotedWith, Value.intChars, if_neg (Nat.not_lt.mpr short)]⟩
  | float => exact ⟨_, by rw [toValue, Value.quotedWith]⟩
  | text => exact ⟨_, by rw [toValue, Value.quotedWith]⟩
  | @list depth items _ ih =>
      obtain ⟨room, rfl⟩ := Nat.exists_eq_succ_of_ne_zero (Nat.ne_zero_of_lt enough)
      have each (item : Json) (member : item ∈ items) :=
        ih item member (Nat.le_of_succ_le_succ enough)
      obtain ⟨chars, written⟩ := exists_quotedItems_eq true each
      refine ⟨'[' :: (chars ++ [']']), ?_⟩
      rw [toValue, Value.quotedWith, if_neg (Nat.succ_ne_zero room), Nat.succ_sub_one, written]
      rfl
  | @object depth members _ ih =>
      obtain ⟨room, rfl⟩ := Nat.exists_eq_succ_of_ne_zero (Nat.ne_zero_of_lt enough)
      have each (member : CodeText × Json) (belongs : member ∈ members) :=
        ih member belongs (Nat.le_of_succ_le_succ enough)
      obtain ⟨chars, written⟩ := exists_quotedEntries_eq true each
      refine ⟨'\x7b' :: (chars ++ ['\x7d']), ?_⟩
      rw [toValue, Value.quotedWith, if_neg (Nat.succ_ne_zero room), Nat.succ_sub_one, written]
      rfl

end

/-! ### Numbers and words -/

/-- Digits after a number stand for less than one more of its last digit. -/
theorem foldl_digits_lt {base : Nat} {digits : List Char}
    (each : ∀ char ∈ digits, Decimal.isDigitOf base char = true) (value : Nat) :
    digits.foldl (fun value char => value * base + (Decimal.digitValue? char).getD 0) value <
      (value + 1) * Nat.pow base digits.length := by
  induction digits generalizing value with
  | nil => exact Nat.lt_of_lt_of_eq (Nat.lt_succ_self value) (Nat.mul_one (value + 1)).symm
  | cons char rest ih =>
      have isDigit := each char List.mem_cons_self
      have small : (Decimal.digitValue? char).getD 0 < base := by
        unfold Decimal.isDigitOf at isDigit
        split at isDigit
        · next digit read => rw [read]; exact of_decide_eq_true isDigit
        · cases isDigit
      have later := ih (fun other member => each other (List.mem_cons_of_mem char member))
        (value * base + (Decimal.digitValue? char).getD 0)
      have room : value * base + (Decimal.digitValue? char).getD 0 + 1 ≤ (value + 1) * base := by
        rw [Nat.add_mul, Nat.one_mul]
        omega
      rw [List.foldl_cons, List.length_cons]
      calc
        _ < _ * Nat.pow base rest.length := later
        _ ≤ (value + 1) * base * Nat.pow base rest.length := Nat.mul_le_mul_right _ room
        _ = (value + 1) * Nat.pow base (rest.length + 1) := by
          rw [Nat.mul_assoc, Nat.mul_comm base]
          rfl

/-- A number has no more digits than those that spell it. -/
theorem length_toDigits_natOfDigits_le {digits : List Char} (some : digits ≠ [])
    (each : ∀ char ∈ digits, Decimal.isDigitOf 10 char = true) :
    (Nat.toDigits 10 (Decimal.natOfDigits 10 digits)).length ≤ digits.length := by
  refine (Nat.length_toDigits_le_iff (by decide) (List.length_pos_iff.mpr some)).mpr ?_
  have bound := foldl_digits_lt each 0
  rwa [Nat.zero_add, Nat.one_mul] at bound

/-- The digits of the whole part of a number stand in the text. -/
theorem readNumber_readsWell (depth : Nat) (cursor : Cursor) :
    ReadsWell depth cursor (IsWithin depth) (readNumber cursor) := by
  unfold readNumber
  split
  next negative body signed =>
    have suffix : body <:+ cursor.rest := by
      split at signed
      · next rest opens =>
        cases signed
        exact opens ▸ List.suffix_cons _ _
      · cases signed
        exact List.suffix_rfl
    extract_lets run whole afterWhole fraction fractionLength power powerLength next size
    have digits : ∀ char ∈ run, Decimal.isDigitOf 10 char = true := fun _ member =>
      List.all_eq_true.mp List.all_takeWhile _ member
    have inText : run <:+: cursor.rest :=
      (List.takeWhile_prefix _).isInfix.trans suffix.isInfix
    clear_value run
    -- behind a zero in front no further digit belongs to the number
    have within : whole <+: run := by
      unfold whole
      split
      · exact ⟨_, rfl⟩
      · exact List.prefix_rfl
    have areDigits : ∀ char ∈ whole, Decimal.isDigitOf 10 char = true :=
      fun char member => digits char (within.subset member)
    split
    · trivial
    · next notEmpty =>
      have some : whole ≠ [] := fun empty => notEmpty (List.isEmpty_iff.mpr empty)
      split
      · split
        · next long => exact ⟨whole, within.isInfix.trans inText, areDigits, long⟩
        · next short =>
          have within := Nat.le_trans (length_toDigits_natOfDigits_le some areDigits)
            (Nat.not_lt.mp short)
          refine ⟨cursor.rest_advance _, IsWithin.int depth ?_⟩
          cases negative
          · exact within
          · rwa [if_pos rfl, Int.natAbs_neg]
      · exact ⟨cursor.rest_advance _, IsWithin.float depth _⟩

theorem readWord?_readsWell {depth : Nat} {cursor : Cursor} {found : Json × Cursor}
    (read : readWord? cursor = some found) :
    ReadsWell depth cursor (IsWithin depth) (.ok found) := by
  obtain ⟨word, named, rfl⟩ := Option.map_eq_some_iff.mp read
  refine ⟨cursor.rest_advance _, ?_⟩
  have member := List.mem_of_find?_eq_some named
  simp only [words, List.mem_cons, List.not_mem_nil, or_false] at member
  rcases member with rfl | rfl | rfl | rfl | rfl | rfl
  · exact .null depth
  · exact .bool depth true
  · exact .bool depth false
  all_goals exact .float depth _

/-! ### Lists and objects -/

section

variable {char : Char} {rest : List Char} {depth : Nat} {cursor inside : Cursor}

theorem openings_lt_openings (opens : (char == '[' || char == '\x7b') = true)
    (suffix : chars <:+ rest) : openings chars < openings (char :: rest) := by
  have counted : openings (char :: rest) = openings rest + 1 := List.countP_cons_of_pos opens
  exact counted ▸ Nat.lt_succ_of_le (openings_le_of_suffix suffix)

theorem Cursor.rest_inside (opened : cursor.rest = char :: rest) :
    (cursor.advance 1).skipBlanks.rest <:+ rest := by
  have behind : (cursor.advance 1).rest = rest := by
    rw [Cursor.advance, opened, List.drop_one, List.tail_cons]
  exact behind ▸ Cursor.rest_skipBlanks _

namespace ReadsWell

variable {α : Type} {good : α → Prop} {result : Except Fault (α × Cursor)}

/-- With no depth left a bracket is a fault, otherwise what it encloses is read. -/
theorem brackets {limits : Limits} (counted : limits.countsEmpty = true)
    (opened : cursor.rest = char :: rest) (opens : (char == '[' || char == '\x7b') = true)
    (enclosed : ∀ less, depth = less + 1 → ReadsWell depth cursor good result) :
    ReadsWell depth cursor good
      (if decide (depth = 0) && limits.countsEmpty then throw Fault.tooDeep >>= fun _ : PUnit => result
      else result) := by
  cases depth with
  | zero =>
      have positive := openings_lt_openings opens (List.suffix_refl rest)
      rw [← opened] at positive
      rw [counted, if_pos (by simp)]
      exact Nat.zero_lt_of_lt positive
  | succ less =>
      rw [if_neg (by simp)]
      exact enclosed less rfl

/-- What is read inside brackets, one level further down, counts as read outside. -/
theorem outside (opened : cursor.rest = char :: rest)
    (opens : (char == '[' || char == '\x7b') = true) (suffix : inside.rest <:+ rest)
    (reads : ReadsWell depth inside good result) : ReadsWell (depth + 1) cursor good result := by
  have outer : inside.rest <:+ cursor.rest := opened ▸ suffix.trans (List.suffix_cons char rest)
  cases result with
  | ok read => exact ⟨reads.1.trans outer, reads.2⟩
  | error fault =>
      cases fault with
      | tooManyDigits count => exact HasLongRun.of_suffix reads outer
      | tooDeep =>
          have deeper := openings_lt_openings opens suffix
          rw [← opened] at deeper
          exact Nat.lt_of_le_of_lt (Nat.succ_le_of_lt reads) deeper
      | _ => trivial

end ReadsWell

end

def ItemsWithin (depth : Nat) (items : List Json) : Prop := ∀ item ∈ items, IsWithin depth item

def MembersWithin (depth : Nat) (members : List (CodeText × Json)) : Prop :=
  ∀ member ∈ members, IsWithin depth member.2

theorem MembersWithin.insert {depth : Nat} {members : List (CodeText × Json)} {item : Json}
    (fits : MembersWithin depth members) (name : CodeText) (added : IsWithin depth item) :
    MembersWithin depth (Ordered.insert name item members) := by
  unfold Ordered.insert
  induction members with
  | nil => exact List.forall_mem_singleton.mpr added
  | cons entry rest ih =>
      obtain ⟨first, others⟩ := List.forall_mem_cons.mp fits
      unfold Ordered.insertBy
      split
      · exact List.forall_mem_cons.mpr ⟨added, others⟩
      · exact List.forall_mem_cons.mpr ⟨first, ih others⟩

variable {limits : Limits} {fuel : Nat}

/-- With some fuel, values are read well. -/
def ValuesReadWell (limits : Limits) (fuel : Nat) : Prop :=
  ∀ depth cursor, ReadsWell depth cursor (IsWithin depth) (readValue limits fuel depth cursor)

def ItemsReadWell (limits : Limits) (fuel : Nat) : Prop :=
  ∀ depth cursor, ReadsWell depth cursor (ItemsWithin depth) (readItems limits fuel depth cursor)

def MembersReadWell (limits : Limits) (fuel : Nat) : Prop :=
  ∀ depth members cursor, MembersWithin depth members →
    ReadsWell depth cursor (MembersWithin depth) (readMembers limits fuel depth members cursor)

theorem valuesReadWell_succ (counted : limits.countsEmpty = true)
    (items : ItemsReadWell limits fuel) (members : MembersReadWell limits fuel) :
    ValuesReadWell limits (fuel + 1) := by
  intro depth cursor
  rw [readValue]
  split
  · trivial
  · next rest opens =>
    refine (readQuoted_readsWell limits depth opens).bind fun content next suffix _ => ?_
    exact ⟨suffix, IsWithin.text depth content⟩
  · next rest opens =>
    have inside := Cursor.rest_inside opens
    have closes := (Cursor.rest_advance _ 1).trans (inside.trans (opens ▸ List.suffix_cons _ _))
    refine ReadsWell.brackets counted opens rfl fun less same => ?_
    subst same
    simp only [Nat.succ_ne_zero, if_false, Nat.succ_sub_one]
    split
    · exact ⟨closes, IsWithin.object fun _ member => absurd member List.not_mem_nil⟩
    · refine ((members less [] _ nofun).outside opens rfl inside).bind ?_
      exact fun _ _ suffix fits => ⟨suffix, IsWithin.object fits⟩
  · next rest opens =>
    have inside := Cursor.rest_inside opens
    have closes := (Cursor.rest_advance _ 1).trans (inside.trans (opens ▸ List.suffix_cons _ _))
    refine ReadsWell.brackets counted opens rfl fun less same => ?_
    subst same
    simp only [Nat.succ_ne_zero, if_false, Nat.succ_sub_one]
    split
    · exact ⟨closes, IsWithin.list fun _ member => absurd member List.not_mem_nil⟩
    · refine ((items less _).outside opens rfl inside).bind ?_
      exact fun _ _ suffix fits => ⟨suffix, IsWithin.list fits⟩
  · split
    · next found read => exact readWord?_readsWell read
    · exact readNumber_readsWell depth cursor

theorem itemsReadWell_succ (values : ValuesReadWell limits fuel) (items : ItemsReadWell limits fuel) :
    ItemsReadWell limits (fuel + 1) := by
  intro depth cursor
  rw [readItems]
  refine (values depth cursor).bind fun item after suffix fits => ?_
  have skipped := after.rest_skipBlanks.trans suffix
  dsimp only
  split
  · refine ⟨(Cursor.rest_advance _ 1).trans skipped, ?_⟩
    exact List.forall_mem_singleton.mpr fits
  · have behind := (Cursor.rest_skipBlanks _).trans ((Cursor.rest_advance _ 1).trans skipped)
    refine ((items depth _).from_suffix behind).bind fun behind last reached others => ?_
    exact ⟨reached, List.forall_mem_cons.mpr ⟨fits, others⟩⟩
  · trivial

theorem membersReadWell_succ (values : ValuesReadWell limits fuel)
    (others : MembersReadWell limits fuel) : MembersReadWell limits (fuel + 1) := by
  intro depth members cursor written
  rw [readMembers]
  split
  · next rest opens =>
    refine (readQuoted_readsWell limits depth opens).bind fun name afterName named _ => ?_
    have colon := afterName.rest_skipBlanks.trans named
    dsimp only
    split
    · have value := (Cursor.rest_skipBlanks _).trans ((Cursor.rest_advance _ 1).trans colon)
      refine ((values depth _).from_suffix value).bind fun item afterItem read fits => ?_
      have next := afterItem.rest_skipBlanks.trans read
      have extended := written.insert name fits
      dsimp only
      split
      · exact ⟨(Cursor.rest_advance _ 1).trans next, extended⟩
      · have behind := (Cursor.rest_skipBlanks _).trans ((Cursor.rest_advance _ 1).trans next)
        exact (others depth _ _ extended).from_suffix behind
      · trivial
    · trivial
  · trivial

theorem all_read_well (counted : limits.countsEmpty = true) (fuel : Nat) :
    ValuesReadWell limits fuel ∧ ItemsReadWell limits fuel ∧ MembersReadWell limits fuel := by
  induction fuel with
  | zero =>
      refine ⟨fun depth cursor => ?_, fun depth cursor => ?_, fun depth members cursor _ => ?_⟩
      · rw [readValue]; trivial
      · rw [readItems]; trivial
      · rw [readMembers]; trivial
  | succ fuel ih =>
      obtain ⟨values, items, members⟩ := ih
      exact ⟨valuesReadWell_succ counted items members, itemsReadWell_succ values items,
        membersReadWell_succ values members⟩

/-! ### Members -/

theorem get?_toEntries (key : String) (members : List (CodeText × Json)) :
    Value.get? key (toEntries members) = ((object members).get? key).map toValue := by
  change _ = (members.lookup (CodeText.ofString key)).map toValue
  induction members with
  | nil => rfl
  | cons entry rest ih =>
      obtain ⟨name, item⟩ := entry
      have same : Value.sameKey (.text name) (.string key) = (name == CodeText.ofString key) := rfl
      rw [toEntries, Value.get?, List.lookup_cons, same, ih]
      by_cases named : name = CodeText.ofString key
      · simp [named]
      · have other : CodeText.ofString key ≠ name := fun equal => named equal.symm
        simp [named, beq_eq_false_iff_ne.mpr other]

theorem toValue_eq_map_iff {json : Json} {entries : List (Value × Value)} :
    json.toValue = .map entries ↔ ∃ members, json = .object members ∧ entries = toEntries members := by
  cases json <;> simp [toValue, eq_comm]

theorem toValue_eq_list_iff {json : Json} {values : List Value} :
    json.toValue = .list values ↔ ∃ items, json = .list items ∧ values = toValues items := by
  cases json <;> simp [toValue, eq_comm]

theorem toEntries_eq_map (members : List (CodeText × Json)) :
    toEntries members = members.map fun member => (.text member.1, member.2.toValue) := by
  induction members with
  | nil => rfl
  | cons entry rest ih => rw [toEntries, List.map_cons, ih]

theorem toValues_eq_map (items : List Json) : toValues items = items.map toValue := by
  induction items with
  | nil => rfl
  | cons item rest ih => rw [toValues, List.map_cons, ih]

/-- The members of an object keep within one level less. -/
theorem IsWithin.each_member {depth : Nat} {members : List (CodeText × Json)}
    (within : (Json.object members).IsWithin depth) :
    ∃ less, depth = less + 1 ∧ ∀ member ∈ members, member.2.IsWithin less := by
  cases within with
  | object each => exact ⟨_, rfl, each⟩

theorem IsWithin.each_item {depth : Nat} {items : List Json} (within : (Json.list items).IsWithin depth) :
    ∃ less, depth = less + 1 ∧ ∀ item ∈ items, item.IsWithin less := by
  cases within with
  | list each => exact ⟨_, rfl, each⟩

/-- What an object has under a name keeps within one level less. -/
theorem IsWithin.of_get? {depth : Nat} {json item : Json} {key : String} (within : json.IsWithin depth)
    (given : json.get? key = some item) : ∃ less, depth = less + 1 ∧ item.IsWithin less := by
  cases json with
  | object members =>
      obtain ⟨less, rfl, each⟩ := within.each_member
      obtain ⟨front, behind, split, _⟩ := List.lookup_eq_some_iff.mp given
      have member : (CodeText.ofString key, item) ∈ members := by
        rw [split]
        exact List.mem_append_right front List.mem_cons_self
      exact ⟨less, rfl, each _ member⟩
  | _ => cases given

theorem IsWithin.at_key {depth : Nat} {members : List (CodeText × Json)} {key : String} {value : Value}
    (within : (Json.object members).IsWithin depth)
    (given : Value.get? key (toEntries members) = some value) :
    ∃ less, ∃ json : Json, depth = less + 1 ∧ value = json.toValue ∧ json.IsWithin less := by
  rw [get?_toEntries] at given
  obtain ⟨json, found, rfl⟩ := Option.map_eq_some_iff.mp given
  obtain ⟨less, rfl, inside⟩ := within.of_get? found
  exact ⟨less, json, rfl, rfl, inside⟩

/-! ### Whole texts -/

variable {source : List Char}

/-- Reading a text gives a value within the limits, or it stops for a reason. -/
def EndsWell (depth : Nat) (source : List Char) : Except Fault Json → Prop
  | .ok json => json.IsWithin depth
  | .error fault => fault.IsCausedBy depth source

theorem read_endsWell (counted : limits.countsEmpty = true) (source : List Char) :
    EndsWell limits.depth source (read limits source) := by
  unfold read
  split
  · trivial
  · have start := (Cursor.mk 0 source).rest_skipBlanks
    have reads := ((all_read_well counted (2 * source.length + 2)).1 limits.depth _).from_suffix start
    revert reads
    dsimp only
    cases readValue limits (2 * source.length + 2) limits.depth (Cursor.mk 0 source).skipBlanks with
    | error fault => exact id
    | ok result =>
        intro reads
        change EndsWell limits.depth source (if result.2.skipBlanks.rest.isEmpty then .ok result.1
          else .error (.extraData result.2.skipBlanks.position))
        split
        · exact reads.2
        · trivial

end EntityScaffold.Json
