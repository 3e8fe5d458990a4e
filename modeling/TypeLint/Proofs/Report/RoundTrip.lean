import TypeLint.Report.Decode
import TypeLint.Report.Encode

/-!
# Reading back what was written

A report that is written as JSON and read again is the same report (`reports_read_back`), and so is
every part of it that can stand alone.

An object is read by looking its fields up, so the first section says what is found in the fields that
were written: `Fields.of_optionalField` and `Fields.of_listField` for those that may have been left out,
`Fields.of_append` to put the parts of a record together. The fields of an outcome stand among those of
its file, and are found there because the file has no field of these names. Then one lemma for each kind
of record, innermost first. A number is read only if it fits in 64 bits; `counts` lists the numbers of a
record, and every lemma asks that of them and nothing else.
-/

namespace TypeLint

/-! ## Fields that were written -/

namespace Fields

/-- The fields that an object gives: of two with one name, the first. -/
def of (fields : List (String × Json)) : Fields := fun name => (fields.find? (·.1 == name)).map (·.2)

@[simp] theorem ofJson?_obj (names : List String) (fields : List (String × Json)) :
    ofJson? names (.obj fields) = some (of fields) := rfl

@[simp] theorem of_nil (name : String) : of [] name = none := rfl

@[simp] theorem of_cons (key : String) (value : Json) (fields : List (String × Json))
    (name : String) :
    of ((key, value) :: fields) name = if key = name then some value else of fields name := by
  unfold of
  by_cases h : key = name
  · rw [List.find?_cons_of_pos (by simpa using h), if_pos h]
    rfl
  · rw [List.find?_cons_of_neg (by simpa using h), if_neg h]

@[simp] theorem of_append (front back : List (String × Json)) (name : String) :
    of (front ++ back) name = (of front name).or (of back name) := by
  unfold of
  rw [List.find?_append, Option.map_or]

variable {α : Type}

@[simp] theorem of_optionalField (key : String) (write : α → Json) (value : Option α)
    (name : String) :
    of (Json.optionalField key write value) name = if key = name then value.map write else none := by
  cases value with
  | none => simp [Json.optionalField]
  | some a => simp [Json.optionalField]

/-- What is found in the place of a list: nothing if the list is empty. -/
def ofList (write : α → Json) (items : List α) : Option Json :=
  if items.isEmpty then none else some (.arr (items.map write))

@[simp] theorem of_listField (key : String) (write : α → Json) (items : List α) (name : String) :
    of (Json.listField key write items) name = if key = name then ofList write items else none := by
  cases items with
  | nil => simp [Json.listField, ofList]
  | cons a items => simp [Json.listField, ofList]

end Fields

/-! ## Leaves -/

section Leaves

variable {α : Type} {read : Json → Option α} {write : α → Json}

@[simp] theorem Json.str?_str (s : String) : Json.str? (.str s) = some s := rfl

theorem Json.count?_ofNat {n : Nat} (h : n ≤ Json.maxCount) : Json.count? (.ofNat n) = some n := by
  simp [Json.ofNat, Json.count?, h]

@[simp] theorem Json.word?_ofNat (w : UInt64) : Json.word? (.ofNat w.toNat) = some w := by
  have hle : w.toNat ≤ Json.maxCount := Nat.le_of_lt_succ w.toNat_lt
  rw [Json.word?, Json.count?_ofNat hle, Option.map_some, UInt64.ofNat_toNat]

theorem Json.list?_arr {items : List α} (h : ∀ a ∈ items, read (write a) = some a) :
    Json.list? read (.arr (items.map write)) = some items := by
  show (items.map write).mapM read = some items
  induction items with
  | nil => rfl
  | cons a items ih =>
    rw [List.forall_mem_cons] at h
    rw [List.map_cons, List.mapM_cons, h.1, ih h.2]
    rfl

/-- A list that is left out when it is empty. -/
theorem Fields.orElse_ofList {fields : Fields} {name : String} {items : List α}
    (hfield : fields name = ofList write items) (h : ∀ a ∈ items, read (write a) = some a) :
    fields.orElse name [] (Json.list? read) = some items := by
  unfold Fields.orElse
  cases items with
  | nil => rw [hfield]; rfl
  | cons a items =>
    rw [hfield]
    exact Json.list?_arr h

/-- A text that is left out when there is none. -/
theorem Fields.optional_str {fields : Fields} {name : String} {text : Option String}
    (hfield : fields name = text.map .str) : fields.optional name Json.str? = some text := by
  unfold Fields.optional
  cases text with
  | none => rw [hfield]; rfl
  | some text => rw [hfield]; rfl

@[simp] theorem Confidence.ofJson?_name (c : Confidence) :
    Confidence.ofJson? (.str c.name) = some c := by
  cases c <;> rfl

@[simp] theorem Severity.ofJson?_name (s : Severity) :
    Severity.ofJson? (.str s.name) = some s := by
  cases s <;> rfl

@[simp] theorem DiagnosticState.ofJson?_name (s : DiagnosticState) :
    DiagnosticState.ofJson? (.str s.name) = some s := by
  cases s <;> rfl

@[simp] theorem Phase.ofJson?_name (p : Phase) : Phase.ofJson? (.str p.name) = some p := by
  cases p <;> rfl

end Leaves

/-! ## The numbers of a record -/

def Span.counts (s : Span) : List Nat := [s.start, s.stop]

def Edit.counts (e : Edit) : List Nat := e.span.counts

def Fix.counts (f : Fix) : List Nat := f.edits.flatMap Edit.counts

def Location.counts (l : Location) : List Nat := [l.line, l.column, l.offset, l.length]

def Diagnostic.counts (d : Diagnostic) : List Nat :=
  d.location.counts ++ d.span.counts ++ d.fixes.flatMap Fix.counts

def ParseError.counts (e : ParseError) : List Nat := [e.line, e.column]

def FileOutcome.counts : FileOutcome → List Nat
  | .parseFailed error => error.counts
  | .timedOut limit => [limit]
  | .analyzed => []
  | .cancelled => []
  | .io _ => []

def FileStats.counts (s : FileStats) : List Nat :=
  [s.suppressed, s.unconfirmed, s.rejectedFixes, s.skippedRules]

def FileReport.counts (r : FileReport) : List Nat :=
  r.outcome.counts ++ r.diagnostics.flatMap Diagnostic.counts ++ r.stats.counts

def BatchSummary.counts (s : BatchSummary) : List Nat :=
  [s.files, s.analyzed, s.parseErrors, s.ioErrors, s.timedOut, s.cancelled, s.warnings, s.suggestions,
    s.fixable, s.suppressed, s.unconfirmed, s.rejectedFixes, s.skippedRules]

def BatchReport.counts (r : BatchReport) : List Nat :=
  r.files.flatMap FileReport.counts ++ r.summary.counts

/-- Every one of these numbers fits in 64 bits. -/
def Json.Writable (counts : List Nat) : Prop := ∀ n ∈ counts, n ≤ Json.maxCount

instance (counts : List Nat) : Decidable (Json.Writable counts) :=
  inferInstanceAs (Decidable (∀ n ∈ counts, n ≤ Json.maxCount))

theorem Json.writable_cons {n : Nat} {counts : List Nat} :
    Json.Writable (n :: counts) ↔ n ≤ Json.maxCount ∧ Json.Writable counts :=
  List.forall_mem_cons

theorem Json.writable_append {front back : List Nat} :
    Json.Writable (front ++ back) ↔ Json.Writable front ∧ Json.Writable back :=
  List.forall_mem_append

theorem Json.writable_flatMap {α : Type} {items : List α} {counts : α → List Nat} :
    Json.Writable (items.flatMap counts) ↔ ∀ a ∈ items, Json.Writable (counts a) :=
  List.forall_mem_flatMap

/-! ## Records -/

theorem Span.ofJson?_toJson {s : Span} (h : Json.Writable s.counts) :
    Span.ofJson? s.toJson = some s := by
  simp only [counts, Json.writable_cons] at h
  simp [ofJson?, toJson, Fields.required, Json.count?_ofNat, h]

theorem Edit.ofJson?_toJson {e : Edit} (h : Json.Writable e.counts) :
    Edit.ofJson? e.toJson = some e := by
  simp [ofJson?, toJson, Fields.required, Span.ofJson?_toJson h]

theorem Fix.ofJson?_toJson {f : Fix} (h : Json.Writable f.counts) :
    Fix.ofJson? f.toJson = some f := by
  have hedits : Json.list? Edit.ofJson? (.arr (f.edits.map Edit.toJson)) = some f.edits :=
    Json.list?_arr fun e he => Edit.ofJson?_toJson (Json.writable_flatMap.1 h e he)
  simp [ofJson?, toJson, Fields.required, Fields.orElse, hedits]

theorem Location.ofJson?_toJson {l : Location} (h : Json.Writable l.counts) :
    Location.ofJson? l.toJson = some l := by
  simp only [counts, Json.writable_cons] at h
  simp [ofJson?, toJson, Fields.required, Json.count?_ofNat, h]

theorem Diagnostic.ofJson?_toJson {d : Diagnostic} (h : Json.Writable d.counts) :
    Diagnostic.ofJson? d.toJson = some d := by
  simp only [counts, Json.writable_append, Json.writable_flatMap] at h
  obtain ⟨⟨hlocation, hspan⟩, hfixes⟩ := h
  rw [toJson, ofJson?, Fields.ofJson?_obj]
  generalize hfields : Fields.of _ = fields
  have hhelp : fields.optional "help" Json.str? = some d.help :=
    Fields.optional_str (by simp [← hfields])
  have hnote : fields.optional "note" Json.str? = some d.note :=
    Fields.optional_str (by simp [← hfields])
  have hfix : fields.orElse "fixes" [] (Json.list? Fix.ofJson?) = some d.fixes :=
    Fields.orElse_ofList (by simp [← hfields]) fun f hf => Fix.ofJson?_toJson (hfixes f hf)
  simp only [Option.bind_eq_bind, Option.bind_some, hhelp, hnote, hfix]
  simp [← hfields, Fields.required, Location.ofJson?_toJson hlocation, Span.ofJson?_toJson hspan]

theorem RuleFailure.ofJson?_toJson (f : RuleFailure) : RuleFailure.ofJson? f.toJson = some f := by
  simp [ofJson?, toJson, Fields.required]

theorem ParseError.ofJson?_toJson {e : ParseError} (h : Json.Writable e.counts) :
    ParseError.ofJson? e.toJson = some e := by
  simp only [counts, Json.writable_cons] at h
  simp [ofJson?, toJson, Fields.required, Json.count?_ofNat, h]

theorem FileStats.ofJson?_toJson {s : FileStats} (h : Json.Writable s.counts) :
    FileStats.ofJson? s.toJson = some s := by
  simp only [counts, Json.writable_cons] at h
  simp [ofJson?, toJson, Fields.required, Json.count?_ofNat, h]

theorem BatchSummary.ofJson?_toJson {s : BatchSummary} (h : Json.Writable s.counts) :
    BatchSummary.ofJson? s.toJson = some s := by
  simp only [counts, Json.writable_cons] at h
  rw [ofJson?, toJson, Fields.ofJson?_obj, Option.bind_eq_bind, Option.bind_some]
  -- every field is looked up first: to run the reads one by one would visit the later ones again
  -- each time
  simp only [Fields.required, Fields.of_cons, String.reduceEq, ↓reduceIte, Option.bind_some,
    Json.count?_ofNat, h]
  rfl

/-! ## The report on a file -/

namespace FileOutcome

/-- The names of the fields that an outcome may have. -/
def fieldNames : List String := ["status", "error", "limit_ms", "message"]

theorem of_fields_eq_none {o : FileOutcome} {name : String} (h : name ∉ fieldNames) :
    Fields.of o.fields name = none := by
  simp only [fieldNames, List.mem_cons, List.not_mem_nil, or_false, not_or] at h
  cases o <;> simp [fields, Ne.symm h.1, Ne.symm h.2.1, Ne.symm h.2.2.1, Ne.symm h.2.2.2]

/-- An outcome is read from any fields that agree with its own on the names it may have. -/
theorem ofFields?_of_agree {o : FileOutcome} (h : Json.Writable o.counts) {f : Fields}
    (hf : ∀ name ∈ fieldNames, f name = Fields.of o.fields name) : ofFields? f = some o := by
  have hstatus := hf "status" (by simp [fieldNames])
  have herror := hf "error" (by simp [fieldNames])
  have hlimit := hf "limit_ms" (by simp [fieldNames])
  have hmessage := hf "message" (by simp [fieldNames])
  cases o with
  | analyzed => simp [ofFields?, Fields.required, hstatus, fields, status, status?]
  | parseFailed e =>
    simp [ofFields?, Fields.required, hstatus, herror, fields, status, status?,
      ParseError.ofJson?_toJson h]
  | timedOut limit =>
    have hle : limit ≤ Json.maxCount := h limit List.mem_cons_self
    simp [ofFields?, Fields.required, hstatus, hlimit, fields, status, status?,
      Json.count?_ofNat hle]
  | cancelled => simp [ofFields?, Fields.required, hstatus, fields, status, status?]
  | io message =>
    simp [ofFields?, Fields.required, hstatus, hmessage, fields, status, status?]

end FileOutcome

theorem FileReport.ofJson?_obj (fields : List (String × Json)) :
    FileReport.ofJson? (.obj fields) = do
      return {
        path := ← (Fields.of fields).required "path" Json.str?
        outcome := ← FileOutcome.ofFields? (Fields.of fields)
        diagnostics := ← (Fields.of fields).orElse "diagnostics" [] (Json.list? Diagnostic.ofJson?)
        failures := ← (Fields.of fields).orElse "engine_errors" [] (Json.list? RuleFailure.ofJson?)
        stats := ← (Fields.of fields).orElse "stats" {} FileStats.ofJson? } := rfl

theorem FileReport.ofJson?_toJson {r : FileReport} (h : Json.Writable r.counts) :
    FileReport.ofJson? r.toJson = some r := by
  simp only [counts, Json.writable_append, Json.writable_flatMap] at h
  obtain ⟨⟨houtcome, hdiagnostics⟩, hstats⟩ := h
  rw [toJson, ofJson?_obj]
  generalize hfields : Fields.of _ = fields
  -- a file and its outcome have no field name in common, so each finds its own fields
  have hown : ∀ name ∉ FileOutcome.fieldNames, Fields.of r.outcome.fields name = none :=
    fun _ hname => FileOutcome.of_fields_eq_none hname
  have hpath : fields.required "path" Json.str? = some r.path := by
    simp [← hfields, Fields.required]
  have hstatus : FileOutcome.ofFields? fields = some r.outcome := by
    refine FileOutcome.ofFields?_of_agree houtcome fun name hname => ?_
    simp only [FileOutcome.fieldNames, List.mem_cons, List.not_mem_nil, or_false] at hname
    rcases hname with rfl | rfl | rfl | rfl <;> simp [← hfields]
  have hlist : fields.orElse "diagnostics" [] (Json.list? Diagnostic.ofJson?) =
      some r.diagnostics := by
    have hread : Json.list? Diagnostic.ofJson? (.arr (r.diagnostics.map Diagnostic.toJson)) =
        some r.diagnostics :=
      Json.list?_arr fun d hd => Diagnostic.ofJson?_toJson (hdiagnostics d hd)
    simp [← hfields, Fields.orElse, hown "diagnostics" (by decide), hread]
  have hfailures : fields.orElse "engine_errors" [] (Json.list? RuleFailure.ofJson?) =
      some r.failures :=
    Fields.orElse_ofList (by simp [← hfields, hown "engine_errors" (by decide)])
      fun f _ => RuleFailure.ofJson?_toJson f
  have hcounts : fields.orElse "stats" {} FileStats.ofJson? = some r.stats := by
    simp [← hfields, Fields.orElse, hown "stats" (by decide), FileStats.ofJson?_toJson hstats]
  simp only [Option.bind_eq_bind, Option.bind_some, hpath, hstatus, hlist, hfailures, hcounts,
    Option.pure_def]

theorem BatchReport.ofJson?_toJson {r : BatchReport} (h : Json.Writable r.counts) :
    BatchReport.ofJson? r.toJson = some r := by
  simp only [counts, Json.writable_append, Json.writable_flatMap] at h
  obtain ⟨hfiles, hsummary⟩ := h
  have hread : Json.list? FileReport.ofJson? (.arr (r.files.map FileReport.toJson)) = some r.files :=
    Json.list?_arr fun f hf => FileReport.ofJson?_toJson (hfiles f hf)
  simp [ofJson?, toJson, Fields.required, hread, BatchSummary.ofJson?_toJson hsummary]

/-- **Reports are read back.** A report over files, a report on one file, a diagnostic, a fix and an
edit come back from JSON as they were written, if their numbers fit in 64 bits. -/
theorem reports_read_back :
    (∀ r : BatchReport, Json.Writable r.counts → BatchReport.ofJson? r.toJson = some r) ∧
    (∀ r : FileReport, Json.Writable r.counts → FileReport.ofJson? r.toJson = some r) ∧
    (∀ d : Diagnostic, Json.Writable d.counts → Diagnostic.ofJson? d.toJson = some d) ∧
    (∀ f : Fix, Json.Writable f.counts → Fix.ofJson? f.toJson = some f) ∧
    ∀ e : Edit, Json.Writable e.counts → Edit.ofJson? e.toJson = some e :=
  ⟨fun _ => BatchReport.ofJson?_toJson, fun _ => FileReport.ofJson?_toJson,
    fun _ => Diagnostic.ofJson?_toJson, fun _ => Fix.ofJson?_toJson, fun _ => Edit.ofJson?_toJson⟩

/-- A warning with a fix and without help or note, a file whose limit is the greatest there is, and a
file that cannot be read. -/
def mixedReport : BatchReport :=
  .ofFiles [
    { path := "a.ts"
      outcome := .analyzed
      diagnostics := [{
        code := "TY001", rule := "no-any", severity := .warning, location := ⟨"a.ts", 1, 1, 0, 2⟩
        span := ⟨0, 2⟩, message := "any", help := none
        fixes := [⟨"swap", .medium, [⟨⟨0, 2⟩, "cd", "ab"⟩], 18446744073709551615⟩]
        state := .fixProposed, note := none }]
      failures := [⟨"no-all", "a.ts", .confirming, "broken"⟩] },
    { path := "b.ts", outcome := .timedOut 18446744073709551615 },
    { path := "c.ts", outcome := .io "no such file" }]

theorem reports_read_back_mixed :
    Json.Writable mixedReport.counts ∧
    BatchReport.ofJson? mixedReport.toJson = some mixedReport := by
  have h : Json.Writable mixedReport.counts := by decide
  exact ⟨h, reports_read_back.1 mixedReport h⟩

end TypeLint
