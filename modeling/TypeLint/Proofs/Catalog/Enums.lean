import TypeLint.Catalog.Enums

/-!
# Enum members keep their values

The reader of an enum keeps one number, the value that the next member has if none is written. It sets
that number anew at every written value, adds one at every other member, and gives it up where there
is nothing to count from. Here the value of a member is said without the reader: `HasValue` looks at the
members before it, where `impliedValue?` finds the last written value and the distance from it.

`nextValue_concat_written` and `nextValue_concat_unwritten` say how the implied value goes on from one
member to the next, which is what the reader does with its number. So reading one member gives its value
(`of_enumMember_ok`) and every member that has a value is read (`exists_enumMember_ok`). The run over the
list (`of_enumMembersFrom_ok`, `exists_enumMembersFrom_ok`) adds that keys are plain and that all values
are of one kind, and `enum_members_keep_values` puts it together. Sums are taken one by one and only
while they fit in 64 bits (`fits_of_nextValue`, `nextValue_of_nextValueAfter`).
-/

namespace TypeLint.Catalog

open Syntax

variable {t : SyntaxTree}

/-! ## What a member stands for -/

/-- A number, or a number with a minus in front. -/
def isNumberLiteral (value : Node t) : Bool :=
  value.kind == "number" ||
    (value.kind == "unary_expression" && value.hasToken "-" &&
      (value.child? "argument").any (·.kind == "number"))

/-- The member has its value written out. -/
structure Assigns (member key value : Node t) : Prop where
  kind : member.kind = "enum_assignment"
  key : member.child? "name" = some key
  value : member.child? "value" = some value

/-- The last member with a written value, among those before a member. -/
def lastWritten? (before : List (Node t)) : Option (Node t) :=
  before.reverse.find? (·.kind == "enum_assignment")

/-- How many places behind that one the next member stands. -/
def sinceWritten (before : List (Node t)) : Nat :=
  before.reverse.findIdx (·.kind == "enum_assignment") + 1

/-- The value of a member as a number of 64 bits. -/
def writtenNumber? (member : Node t) : Option Int :=
  ((member.child? "value").filter isNumberLiteral).bind (decimalValue? ·.text)

/-- The value of a member that has none written, from the members before it: it counts on from the last
written value, or from zero. -/
def impliedValue? (before : List (Node t)) : Option Int :=
  match lastWritten? before with
  | none => some before.length
  | some last => (writtenNumber? last).map (· + (sinceWritten before : Int))

/-- The value of a member, with its key and the kind of the value. -/
inductive HasValue (before : List (Node t)) (member : Node t) :
    Node t → EnumValueKind → String → Prop where
  | text {key value : Node t} (assigns : Assigns member key value) (text : value.kind = "string") :
    HasValue before member key .text value.text
  | number {key value : Node t} (assigns : Assigns member key value)
      (number : isNumberLiteral value = true) : HasValue before member key .number value.text
  | counted {n : Int} (unwritten : member.kind ≠ "enum_assignment")
      (counts : impliedValue? before = some n) (fits : n ≤ maxEnumValue) :
    HasValue before member member .number (toString n)

/-! ## Literals -/

theorem literalPrimitive?_eq_number_iff {value : Node t} :
    literalPrimitive? value = some "number" ↔ isNumberLiteral value = true := by
  unfold literalPrimitive? isNumberLiteral
  split
  next h => simp [h]
  next h => split <;> simp [h]
  next h => simp [h]
  next h => simp [h]
  next h => simp [h]
  next h =>
    rw [h]
    by_cases htoken : value.hasToken "-" = true
    · cases value.child? "argument" with
      | none => simp
      | some argument =>
        by_cases hkind : argument.kind = "number"
        · simp [htoken, hkind]
        · simp [htoken, hkind]
    · simp [htoken]
  next hnumber _ _ hunary =>
    have hnumber : value.kind ≠ "number" := hnumber
    have hunary : value.kind ≠ "unary_expression" := hunary
    simp [hnumber, hunary]

theorem literalPrimitive?_of_string {value : Node t} (h : value.kind = "string") :
    literalPrimitive? value = some "string" := by
  simp [literalPrimitive?, h]

theorem isNumberLiteral_of_string {value : Node t} (h : value.kind = "string") :
    isNumberLiteral value = false := by
  simp [isNumberLiteral, h]

/-! ## Counting on -/

section Counting

variable {before : List (Node t)} {member : Node t}

theorem impliedValue?_concat_written (h : member.kind = "enum_assignment") :
    impliedValue? (before ++ [member]) = (writtenNumber? member).map (· + 1) := by
  have hlast : lastWritten? (before ++ [member]) = some member := by
    rw [lastWritten?, List.reverse_concat, List.find?_cons_of_pos (by simpa using h)]
  have hsince : sinceWritten (before ++ [member]) = 1 := by
    rw [sinceWritten, List.reverse_concat, List.findIdx_cons]
    simp [h]
  rw [impliedValue?, hlast, hsince]
  rfl

theorem impliedValue?_concat_unwritten (h : member.kind ≠ "enum_assignment") :
    impliedValue? (before ++ [member]) = (impliedValue? before).map (· + 1) := by
  have hlast : lastWritten? (before ++ [member]) = lastWritten? before := by
    rw [lastWritten?, List.reverse_concat, List.find?_cons_of_neg (by simpa using h), lastWritten?]
  have hsince : sinceWritten (before ++ [member]) = sinceWritten before + 1 := by
    rw [sinceWritten, List.reverse_concat, List.findIdx_cons, beq_false_of_ne h, cond_false, sinceWritten]
  unfold impliedValue?
  rw [hlast, hsince, List.length_append, List.length_singleton]
  cases lastWritten? before with
  | none => rfl
  | some last =>
    dsimp only
    rw [Option.map_map]
    congr 1
    funext v
    show v + ((sinceWritten before + 1 : Nat) : Int) = v + (sinceWritten before : Int) + 1
    omega

/-- The value that the reader has in hand for a member without one: the implied value while it fits. -/
def nextValue (before : List (Node t)) : Option Int :=
  (impliedValue? before).filter fun n => decide (n ≤ maxEnumValue)

theorem nextValue_eq_some_iff {n : Int} :
    nextValue before = some n ↔ impliedValue? before = some n ∧ n ≤ maxEnumValue := by
  rw [nextValue, Option.filter_eq_some_iff, decide_eq_true_eq]

theorem succValue?_eq_some_iff {n k : Int} :
    succValue? n = some k ↔ k = n + 1 ∧ k ≤ maxEnumValue := by
  unfold succValue?
  split
  next h =>
    rw [Option.some.injEq]
    omega
  next h =>
    simp only [reduceCtorEq, false_iff]
    omega

/-- After a written value the reader counts on from it. -/
theorem nextValue_concat_written (h : member.kind = "enum_assignment") :
    nextValue (before ++ [member]) = (writtenNumber? member).bind succValue? := by
  refine Option.ext fun k => ?_
  simp only [nextValue_eq_some_iff, impliedValue?_concat_written h, Option.map_eq_some_iff,
    Option.bind_eq_some_iff, succValue?_eq_some_iff]
  constructor
  · rintro ⟨⟨v, hv, rfl⟩, hfits⟩
    exact ⟨v, hv, rfl, hfits⟩
  · rintro ⟨v, hv, rfl, hfits⟩
    exact ⟨⟨v, hv, rfl⟩, hfits⟩

/-- After a member without one it counts on from what it had. -/
theorem nextValue_concat_unwritten (h : member.kind ≠ "enum_assignment") :
    nextValue (before ++ [member]) = (nextValue before).bind succValue? := by
  refine Option.ext fun k => ?_
  simp only [nextValue_eq_some_iff, impliedValue?_concat_unwritten h, Option.map_eq_some_iff,
    Option.bind_eq_some_iff, succValue?_eq_some_iff]
  constructor
  · rintro ⟨⟨n, hn, rfl⟩, hfits⟩
    exact ⟨n, ⟨hn, by omega⟩, rfl, hfits⟩
  · rintro ⟨n, ⟨hn, -⟩, rfl, hfits⟩
    exact ⟨⟨n, hn, rfl⟩, hfits⟩

end Counting

/-! ## Reading one member -/

section Member

variable {before : List (Node t)} {member : Node t}

/-- What is read is the value of the member, and the reader counts on from it. -/
theorem of_enumMember_ok {read : EnumMember t} (h : enumMember (nextValue before) member = .ok read) :
    HasValue before member read.key read.kind read.value ∧ read.next = nextValue (before ++ [member]) := by
  unfold enumMember at h
  split at h
  next hkind =>
    have hkind : member.kind = "enum_assignment" := by simpa using hkind
    split at h
    next key value hkey hvalue =>
      have hassigns : Assigns member key value := ⟨hkind, hkey, hvalue⟩
      rw [nextValue_concat_written hkind, writtenNumber?, hvalue]
      split at h
      next hliteral =>
        split at h
        next hstring =>
          have hstring : value.kind = "string" := by simpa using hstring
          cases h
          refine ⟨.text hassigns hstring, ?_⟩
          rw [Option.filter_some, if_neg (by simp [isNumberLiteral_of_string hstring])]
          rfl
        next => cases h
      next hliteral =>
        have hnumber := literalPrimitive?_eq_number_iff.1 hliteral
        cases h
        refine ⟨.number hassigns hnumber, ?_⟩
        rw [Option.filter_some, if_pos hnumber]
        rfl
      next => cases h
    next => cases h
  next hkind =>
    have hkind : member.kind ≠ "enum_assignment" := by simpa using hkind
    split at h
    next => cases h
    next n hn =>
      cases h
      obtain ⟨himplied, hfits⟩ := nextValue_eq_some_iff.1 hn
      refine ⟨.counted hkind himplied hfits, ?_⟩
      rw [nextValue_concat_unwritten hkind, hn]
      rfl

/-- Every member that has a value is read. -/
theorem exists_enumMember_ok {key : Node t} {kind : EnumValueKind} {value : String}
    (h : HasValue before member key kind value) :
    ∃ read, enumMember (nextValue before) member = .ok read ∧
      read.key = key ∧ read.kind = kind ∧ read.value = value := by
  cases h with
  | text assigns text =>
    simp [enumMember, assigns.kind, assigns.key, assigns.value, literalPrimitive?_of_string text, text]
  | number assigns number =>
    simp [enumMember, assigns.kind, assigns.key, assigns.value,
      literalPrimitive?_eq_number_iff.2 number]
  | counted unwritten counts fits =>
    simp [enumMember, unwritten, nextValue_eq_some_iff.2 ⟨counts, fits⟩]

end Member

/-! ## Reading the list -/

/-- The kinds of node that a key can be. -/
def enumKeyKinds : List String := ["property_identifier", "string", "number"]

/-- The entries give the members their keys and values, in order. -/
structure EntriesOf (before members : List (Node t)) (kind : EnumValueKind)
    (entries : List (String × String)) : Prop where
  length : entries.length = members.length
  value : ∀ (i : Nat) (m : Node t), members[i]? = some m → ∃ key value,
    HasValue (before ++ members.take i) m key kind value ∧ key.isOneOf enumKeyKinds = true ∧
      entries[i]? = some (key.text, value)

variable {before members : List (Node t)} {kind : EnumValueKind}

theorem entriesOf_nil : EntriesOf before [] kind [] := ⟨rfl, fun i m h => by simp at h⟩

/-- One more member in front. -/
theorem EntriesOf.cons {m key : Node t} {value : String} {entries : List (String × String)}
    (hvalue : HasValue before m key kind value) (hkey : key.isOneOf enumKeyKinds = true)
    (h : EntriesOf (before ++ [m]) members kind entries) :
    EntriesOf before (m :: members) kind ((key.text, value) :: entries) := by
  refine ⟨by rw [List.length_cons, List.length_cons, h.length], fun i m' hi => ?_⟩
  cases i with
  | zero =>
    cases hi
    refine ⟨key, value, ?_, hkey, rfl⟩
    rwa [List.take_zero, List.append_nil]
  | succ i =>
    obtain ⟨key', value', hvalue', hkey', hentry⟩ := h.value i m' hi
    refine ⟨key', value', ?_, hkey', hentry⟩
    rwa [List.take_succ_cons, List.append_cons]

/-- A list that is read has all its values, of one kind, which is the kind seen before. -/
theorem of_enumMembersFrom_ok {seen : Option EnumValueKind} {entries : List (String × String)}
    (h : enumMembersFrom (nextValue before) seen members = .ok entries) :
    ∃ kind, (∀ k, seen = some k → k = kind) ∧ EntriesOf before members kind entries := by
  induction members generalizing before seen entries with
  | nil =>
    cases h
    exact ⟨seen.getD .text, fun k hk => by rw [hk, Option.getD_some], entriesOf_nil⟩
  | cons m members ih =>
    rw [enumMembersFrom] at h
    split at h
    next => cases h
    next read hread =>
      obtain ⟨hvalue, hnext⟩ := of_enumMember_ok hread
      split at h
      next => cases h
      next hkey =>
        have hkey : read.key.isOneOf enumKeyKinds = true := by simpa [enumKeyKinds] using hkey
        split at h
        next => cases h
        next hseen =>
          have hseen : ∀ k, seen = some k → k = read.kind := by
            rintro k rfl
            simpa using hseen
          rw [hnext] at h
          cases hrest : enumMembersFrom (nextValue (before ++ [m])) (some read.kind) members with
          | error reason =>
            rw [hrest] at h
            cases h
          | ok rest =>
            rw [hrest] at h
            cases h
            obtain ⟨kind, hkind, hentries⟩ := ih hrest
            cases hkind _ rfl
            exact ⟨read.kind, hseen, hentries.cons hvalue hkey⟩

/-- A list whose members all have values of one kind is read. -/
theorem exists_enumMembersFrom_ok {seen : Option EnumValueKind} (hseen : ∀ k, seen = some k → k = kind)
    (h : ∀ (i : Nat) (m : Node t), members[i]? = some m → ∃ key value,
      HasValue (before ++ members.take i) m key kind value ∧ key.isOneOf enumKeyKinds = true) :
    ∃ entries, enumMembersFrom (nextValue before) seen members = .ok entries := by
  induction members generalizing before seen with
  | nil => exact ⟨[], rfl⟩
  | cons m members ih =>
    obtain ⟨key, value, hvalue, hkey⟩ := h 0 m rfl
    rw [List.take_zero, List.append_nil] at hvalue
    obtain ⟨read, hread, rfl, rfl, rfl⟩ := exists_enumMember_ok hvalue
    obtain ⟨-, hnext⟩ := of_enumMember_ok hread
    have hkind : ∀ k, some read.kind = some k → k = read.kind := fun k hk => by cases hk; rfl
    have hrest : ∀ (i : Nat) (m' : Node t), members[i]? = some m' → ∃ key value,
        HasValue (before ++ [m] ++ members.take i) m' key read.kind value ∧
          key.isOneOf enumKeyKinds = true := by
      intro i m' hi
      obtain ⟨key, value, hvalue, hkey⟩ := h (i + 1) m' hi
      rw [List.take_succ_cons, List.append_cons] at hvalue
      exact ⟨key, value, hvalue, hkey⟩
    obtain ⟨entries, hentries⟩ := ih hkind hrest
    have hseen : seen.any (· != read.kind) = false := by
      cases seen with
      | none => rfl
      | some k => simp [hseen k rfl]
    refine ⟨(read.key.text, read.value) :: entries, ?_⟩
    rw [enumMembersFrom, hread]
    dsimp only
    rw [if_neg (by simpa [enumKeyKinds] using hkey), if_neg (by simp [hseen]), hnext, hentries]
    rfl

/-! ## No overflow -/

/-- The number fits in 64 bits. -/
def Fits64 (n : Int) : Prop := minEnumValue ≤ n ∧ n ≤ maxEnumValue

theorem fits_of_decimalValue? {text : String} {n : Int} (h : decimalValue? text = some n) : Fits64 n := by
  unfold decimalValue? at h
  dsimp only at h
  have hcheck : ∀ value : Int,
      (if minEnumValue ≤ value ∧ value ≤ maxEnumValue then some value else none) = some n → Fits64 n := by
    intro value hvalue
    split at hvalue
    next hfits =>
      cases hvalue
      exact hfits
    next => cases hvalue
  split at h
  all_goals
    obtain ⟨value, -, h⟩ := Option.bind_eq_some_iff.1 h
    exact hcheck value h

theorem fits_of_nextValue {n : Int} (h : nextValue before = some n) : Fits64 n := by
  obtain ⟨himplied, hmax⟩ := nextValue_eq_some_iff.1 h
  refine ⟨?_, hmax⟩
  unfold impliedValue? at himplied
  split at himplied
  next =>
    have hmin : minEnumValue ≤ 0 := by decide
    cases himplied
    omega
  next last _ =>
    obtain ⟨v, hv, rfl⟩ := Option.map_eq_some_iff.1 himplied
    obtain ⟨value, -, hv⟩ := Option.bind_eq_some_iff.1 hv
    have hmin := (fits_of_decimalValue? hv).1
    omega

/-- The number that the reader has in hand after these members. -/
def nextValueAfter : (next : Option Int) → (members : List (Node t)) → Option Int
  | next, [] => next
  | next, m :: rest =>
    match enumMember next m with
    | .ok read => nextValueAfter read.next rest
    | .error _ => none

/-- After every member it is the value the next one has if none is written. -/
theorem nextValue_of_nextValueAfter {n : Int}
    (h : nextValueAfter (nextValue before) members = some n) :
    nextValue (before ++ members) = some n := by
  induction members generalizing before with
  | nil => rwa [List.append_nil]
  | cons m members ih =>
    rw [nextValueAfter] at h
    split at h
    next read hread =>
      rw [(of_enumMember_ok hread).2] at h
      rw [List.append_cons]
      exact ih h
    next => cases h

/-! ## The enum -/

/-- A member behind these cannot be counted: the last written value is a text or no number of 64 bits,
or counting on from it leaves 64 bits. -/
inductive Uncountable (before : List (Node t)) : Prop where
  | text {last key value : Node t} (hlast : lastWritten? before = some last)
      (assigns : Assigns last key value) (text : value.kind = "string") : Uncountable before
  | number {last key value : Node t} (hlast : lastWritten? before = some last)
      (assigns : Assigns last key value) (number : decimalValue? value.text = none) :
    Uncountable before
  | large {n : Int} (counts : impliedValue? before = some n) (large : maxEnumValue < n) :
    Uncountable before

theorem Uncountable.nextValue_eq_none {before : List (Node t)} (h : Uncountable before) :
    nextValue before = none := by
  have hwritten : ∀ {last}, lastWritten? before = some last → writtenNumber? last = none →
      nextValue before = none := by
    intro last hlast hnone
    unfold nextValue impliedValue?
    rw [hlast]
    dsimp only
    rw [hnone]
    rfl
  cases h with
  | text hlast assigns text =>
    refine hwritten hlast ?_
    rw [writtenNumber?, assigns.value, Option.filter_some,
      if_neg (by simp [isNumberLiteral_of_string text])]
    rfl
  | number hlast assigns number =>
    refine hwritten hlast ?_
    rw [writtenNumber?, assigns.value, Option.filter_some]
    split
    next => exact number
    next => rfl
  | large counts large =>
    rw [nextValue, counts, Option.filter_some, if_neg (by simpa using large)]

/-- Where the members cannot be told, the enum is left alone. -/
theorem fixEnum_manual {ctx : FileContext} {hit : Match ctx.tree} {body : Node ctx.tree}
    {reason : String} (hbody : hit.node.child? "body" = some body)
    (h : enumMembers body = .error reason) : ∃ why, fixEnum ctx hit = .ok (.manual why) := by
  unfold fixEnum
  dsimp only
  split
  next => exact ⟨_, rfl⟩
  next =>
    split
    next name body' _ hbody' =>
      rw [hbody] at hbody'
      cases hbody'
      rw [h]
      exact ⟨_, rfl⟩
    next => exact ⟨_, rfl⟩

/-- At first there is nothing to count on from. -/
theorem enumMembers_eq (body : Node t) : enumMembers body =
    enumMembersFrom (nextValue ([] : List (Node t))) none body.significantChildren := rfl

theorem of_enumMembers_ok {body : Node t} {entries : List (String × String)}
    (h : enumMembers body = .ok entries) :
    ∃ kind, EntriesOf [] body.significantChildren kind entries := by
  rw [enumMembers_eq] at h
  obtain ⟨kind, -, hentries⟩ := of_enumMembersFrom_ok h
  exact ⟨kind, hentries⟩

/-- One member without a value that cannot be counted is enough. -/
theorem exists_enumMembers_error {body m : Node t} {before behind : List (Node t)}
    (hsplit : body.significantChildren = before ++ m :: behind) (hkind : m.kind ≠ "enum_assignment")
    (hbefore : Uncountable before) : ∃ reason, enumMembers body = .error reason := by
  cases h : enumMembers body with
  | error reason => exact ⟨reason, rfl⟩
  | ok entries =>
    obtain ⟨kind, hentries⟩ := of_enumMembers_ok h
    have hmember : body.significantChildren[before.length]? = some m := by simp [hsplit]
    obtain ⟨key, value, hvalue, -, -⟩ := hentries.value _ m hmember
    rw [List.nil_append, hsplit, List.take_left] at hvalue
    cases hvalue with
    | text assigns _ => exact absurd assigns.kind hkind
    | number assigns _ => exact absurd assigns.kind hkind
    | counted _ counts fits =>
      have hsome := nextValue_eq_some_iff.2 ⟨counts, fits⟩
      rw [hbefore.nextValue_eq_none] at hsome
      cases hsome

/-- **Enum members keep their values.** The members of an enum are told exactly when every one of them
has a value, all of one kind, and a plain key. Then there is one entry for each, in order, with its key
and value as written or as counted on from the last written value. A member without a value that cannot
be counted leaves the enum to be changed by hand, and so does everything else that cannot be told. The
number that the reader counts with never leaves 64 bits. -/
theorem enum_members_keep_values (body : Node t) :
    ((∃ entries, enumMembers body = .ok entries) ↔
      ∃ kind, ∀ (i : Nat) (m : Node t), body.significantChildren[i]? = some m → ∃ key value,
        HasValue (body.significantChildren.take i) m key kind value ∧
          key.isOneOf enumKeyKinds = true) ∧
    (∀ entries, enumMembers body = .ok entries →
      entries.length = body.significantChildren.length ∧
      ∀ (i : Nat) (m : Node t), body.significantChildren[i]? = some m → ∃ key kind value,
        HasValue (body.significantChildren.take i) m key kind value ∧
          entries[i]? = some (key.text, value)) ∧
    (∀ before m behind, body.significantChildren = before ++ m :: behind →
      m.kind ≠ "enum_assignment" → Uncountable before →
      ∃ reason, enumMembers body = .error reason) ∧
    (∀ (ctx : FileContext) (hit : Match ctx.tree) (body : Node ctx.tree) (reason : String),
      hit.node.child? "body" = some body → enumMembers body = .error reason →
      ∃ why, fixEnum ctx hit = .ok (.manual why)) ∧
    ∀ before behind, body.significantChildren = before ++ behind →
      ∀ n, nextValueAfter (some 0) before = some n → minEnumValue ≤ n ∧ n ≤ maxEnumValue := by
  refine ⟨⟨?_, ?_⟩, ?_, fun _ _ _ => exists_enumMembers_error, fun _ _ _ _ => fixEnum_manual, ?_⟩
  · rintro ⟨entries, h⟩
    obtain ⟨kind, hentries⟩ := of_enumMembers_ok h
    refine ⟨kind, fun i m hi => ?_⟩
    obtain ⟨key, value, hvalue, hkey, -⟩ := hentries.value i m hi
    exact ⟨key, value, hvalue, hkey⟩
  · rintro ⟨kind, h⟩
    rw [enumMembers_eq]
    exact exists_enumMembersFrom_ok (fun k hk => by cases hk) h
  · intro entries h
    obtain ⟨kind, hentries⟩ := of_enumMembers_ok h
    refine ⟨hentries.length, fun i m hi => ?_⟩
    obtain ⟨key, value, hvalue, -, hentry⟩ := hentries.value i m hi
    exact ⟨key, kind, value, hvalue, hentry⟩
  · intro before behind _ n hn
    have hn : nextValueAfter (nextValue ([] : List (Node t))) before = some n := hn
    exact fits_of_nextValue (nextValue_of_nextValueAfter hn)

end TypeLint.Catalog
