import Sparql.Proofs.Number.Limit
import Sparql.Proofs.Outcome
import Sparql.Settings.Load

/-!
# What loading settings fails with

A file whose settings are no good is reported as a problem, and so is a file that is no YAML. A few contents are
caught by no check: bytes that are no text, a number in the document that cannot be read, and numbers of the right
kind that the conversion to a double or to an integer does not take or that no message can write.
-/

namespace Sparql

namespace Settings

variable {α β : Type} {fault : Fault}

/-! ## Readings -/

namespace Reading

/-- The reading yields a value. -/
def Yields (reading : Reading α) (value : α) : Prop := reading.run = .ok (.ok value)

/-- The reading ends in a fault. -/
def Faults (reading : Reading α) (fault : Fault) : Prop := reading.run = .error fault

variable {first : Reading α} {rest : α → Reading β}

@[simp]
theorem faults_bind : Faults (first >>= rest) fault ↔
    first.Faults fault ∨ ∃ value, first.Yields value ∧ (rest value).Faults fault := by
  unfold Faults Yields ExceptT.run
  rcases first with cause | cause | value
  · simp [bind, ExceptT.bind, ExceptT.mk, Except.bind]
  · simp [bind, ExceptT.bind, ExceptT.mk, Except.bind, ExceptT.bindCont, pure, Except.pure]
  · simp [bind, ExceptT.bind, ExceptT.mk, Except.bind, ExceptT.bindCont]

@[simp]
theorem yields_bind {result : β} : Yields (first >>= rest) result ↔
    ∃ value, first.Yields value ∧ (rest value).Yields result := by
  unfold Yields ExceptT.run
  rcases first with cause | cause | value
  · simp [bind, ExceptT.bind, ExceptT.mk, Except.bind]
  · simp [bind, ExceptT.bind, ExceptT.mk, Except.bind, ExceptT.bindCont, pure, Except.pure]
  · simp [bind, ExceptT.bind, ExceptT.mk, Except.bind, ExceptT.bindCont]

@[simp]
theorem not_faults_pure {value : α} : ¬ Faults (pure value) fault := by
  rintro ⟨⟩

@[simp]
theorem not_faults_wrong {cause : SettingsError} : ¬ Faults (wrong cause : Reading α) fault := by
  rintro ⟨⟩

@[simp]
theorem not_yields_wrong {cause : SettingsError} {value : α} : ¬ Yields (wrong cause) value := by
  rintro ⟨⟩

@[simp]
theorem not_faults_wrongKind : ¬ Faults (wrongKind : Reading α) fault := not_faults_wrong

@[simp]
theorem faults_lift {cause : Fault} : Faults (ExceptT.lift (.error cause) : Reading α) fault ↔ fault = cause := by
  simp [Faults, ExceptT.run, ExceptT.lift, ExceptT.mk, Functor.map, Except.map, eq_comm]

@[simp]
theorem faults_overflow : Faults (overflow : Reading α) fault ↔ fault = .overflow := faults_lift

@[simp]
theorem yields_pure {value result : α} : Yields (pure value) result ↔ value = result := by
  simp [Yields, ExceptT.run, pure, ExceptT.pure, ExceptT.mk, Except.pure]

theorem not_faults_mapM {read : α → Reading β} {items : List α} (neverFaults : ∀ item, ¬ (read item).Faults fault) :
    ¬ Faults (items.mapM read) fault := by
  induction items with
  | nil =>
      rw [List.mapM_nil]
      exact not_faults_pure
  | cons item rest ih =>
      simp only [List.mapM_cons, faults_bind, neverFaults, ih, not_faults_pure, and_false, exists_false, or_self,
        not_false_eq_true]

end Reading

open Reading

/-! ## Fields -/

/-- An integer with no finite double near it. -/
def IsBeyondDouble (value : Value) : Prop :=
  ∃ number : Int, value = .int number ∧ 2 ^ 1024 - 2 ^ 970 ≤ number.natAbs

variable {value : Value}

theorem double_faults : (double value).Faults fault ↔ fault = .overflow ∧ IsBeyondDouble value := by
  unfold double
  split
  · refine iff_of_false not_faults_pure ?_
    rintro ⟨_, _, ⟨⟩, _⟩
  · rename_i number
    simp only [IsBeyondDouble, Value.int.injEq, exists_eq_left', ← Double.isInfinite_ofInt]
    split
    · rename_i isInfinite
      simp [isInfinite]
    · rename_i notInfinite
      simp [notInfinite]
  · refine iff_of_false not_faults_pure ?_
    rintro ⟨_, _, ⟨⟩, _⟩
  · refine iff_of_false ?_ (by rintro ⟨_, _, ⟨⟩, _⟩)
    split
    · exact not_faults_pure
    · exact not_faults_wrongKind
  · rename_i notInt _ _
    refine iff_of_false ?_ (by rintro ⟨_, number, rfl, _⟩; exact notInt number rfl)
    split
    · exact not_faults_pure
    · exact not_faults_wrongKind

theorem not_faults_whole {number : Option Int} : ¬ (whole number).Faults fault := by
  unfold whole
  split
  · exact not_faults_pure
  · exact not_faults_wrongKind

theorem integer_faults : (integer value).Faults fault ↔ fault = .overflow ∧ value.IsInfinity := by
  unfold integer
  split
  · simp [Value.IsInfinity]
  · simp [Value.IsInfinity]
  · rename_i number
    cases number <;> simp [Value.IsInfinity, Double.isInfinite, not_faults_whole]
  · simp [Value.IsInfinity]
  · rename_i number notInfinite
    refine iff_of_false not_faults_whole ?_
    rintro ⟨_, negative, isInfinity⟩
    rcases isInfinity with ⟨⟨⟩⟩ | ⟨⟨⟩⟩
    exact notInfinite negative rfl
  · rename_i notFloat notInfinity notDecimal
    refine iff_of_false not_faults_whole ?_
    rintro ⟨_, negative, rfl | rfl⟩
    · exact notFloat _ rfl
    · exact notInfinity _ rfl

theorem not_faults_entries : ¬ (entries value).Faults fault := by
  unfold entries
  split
  · simp
  · split
    · simp
    · split
      · simp
      · have pairs : ∀ item, ¬ (pairOf item).Faults fault := by
          intro item
          unfold pairOf
          split <;> simp
        simp only [faults_bind, not_faults_mapM pairs, false_or, not_exists, not_and]
        intro pairs _
        split <;> simp

theorem not_faults_items : ¬ (items value).Faults fault := by
  unfold items
  split
  · simp
  · split <;> simp

theorem not_faults_retryFields : ¬ (retryFields value).Faults fault := by
  unfold retryFields
  split
  · simp
  · split <;> simp

/-! ## Settings -/

/-- What is read of the fields of a mapping before those of the mapping that says how often to try: the method can be
spelled and the other fields have their kinds. -/
structure ReadsRetry (fields retry : List (Value × Value)) : Prop where
  method : (field fields "method" (.text "POST")).textFault? = none
  timeout : ∃ seconds, (double (field fields "timeout" (.int 30))).Yields seconds
  headers : ∃ pairs, (entries (field fields "headers" .null)).Yields pairs
  namedGraphs : ∃ graphs, (items (field fields "named_graphs" .null)).Yields graphs
  retry : (retryFields (field fields "retry" .null)).Yields retry

/-- A field has the right kind, but a number that its reader does not take. The first field that is no good decides,
so all before it are read. -/
inductive HasUnreadableNumber (fields : List (Value × Value)) : Prop
  | timeout (method : (field fields "method" (.text "POST")).textFault? = none)
      (isBeyond : IsBeyondDouble (field fields "timeout" (.int 30)))
  | attempts {retry : List (Value × Value)} (areRead : ReadsRetry fields retry)
      (isInfinity : (field retry "attempts" (.int 1)).IsInfinity)
  | delay {retry : List (Value × Value)} (areRead : ReadsRetry fields retry)
      (attempts : ∃ times, (integer (field retry "attempts" (.int 1))).Yields times)
      (isBeyond : IsBeyondDouble (field retry "delay_seconds" (.int 0)))

variable {fields : List (Value × Value)}

theorem read_faults : (read fields).Faults fault ↔ fault = .overflow ∧ HasUnreadableNumber fields := by
  unfold read
  simp only
  split
  · rename_i isUnspellable
    refine iff_of_false ?_ ?_
    · simp only [wrongKind, faults_bind, not_faults_wrong, not_yields_wrong, false_and, exists_false, or_self,
        not_false_eq_true]
    · rintro ⟨_, ⟨method, _⟩ | ⟨areRead, _⟩ | ⟨areRead, _⟩⟩
      · simp [method] at isUnspellable
      · simp [areRead.method] at isUnspellable
      · simp [areRead.method] at isUnspellable
  · rename_i isSpellable
    have method : (field fields "method" (.text "POST")).textFault? = none := by simpa using isSpellable
    simp only [faults_bind, not_faults_entries, not_faults_items, not_faults_retryFields, not_faults_pure, false_or,
      double_faults, integer_faults, and_false, exists_false, or_false]
    constructor
    · rintro (⟨rfl, isBeyond⟩ | ⟨_, timeout, _, headers, _, graphs, retry, isRetry, rest⟩)
      · exact ⟨rfl, .timeout method isBeyond⟩
      · have areRead : ReadsRetry fields retry := ⟨method, ⟨_, timeout⟩, ⟨_, headers⟩, ⟨_, graphs⟩, isRetry⟩
        rcases rest with ⟨rfl, isInfinity⟩ | ⟨times, attempts, rfl, isBeyond⟩
        · exact ⟨rfl, .attempts areRead isInfinity⟩
        · exact ⟨rfl, .delay areRead ⟨times, attempts⟩ isBeyond⟩
    · rintro ⟨rfl, unreadable⟩
      cases unreadable with
      | timeout _ isBeyond => exact .inl ⟨rfl, isBeyond⟩
      | attempts areRead isInfinity =>
          rcases areRead with ⟨_, ⟨_, timeout⟩, ⟨_, headers⟩, ⟨_, graphs⟩, retry⟩
          exact .inr ⟨_, timeout, _, headers, _, graphs, _, retry, .inl ⟨rfl, isInfinity⟩⟩
      | delay areRead attempts isBeyond =>
          rcases areRead with ⟨_, ⟨_, timeout⟩, ⟨_, headers⟩, ⟨_, graphs⟩, retry⟩
          rcases attempts with ⟨times, attempts⟩
          exact .inr ⟨_, timeout, _, headers, _, graphs, _, retry, .inr ⟨times, attempts, rfl, isBeyond⟩⟩

/-- Settings whose first value out of its bounds is a number of attempts with too many digits for a message. -/
structure Checked.IsUnwritable (settings : Settings.Checked) : Prop where
  method : settings.method = "GET" ∨ settings.method = "POST"
  timeout : settings.timeout.isNonpositive = false
  attempts : settings.attempts < 1
  isLong : 10 ^ Number.maxDigits ≤ settings.attempts.natAbs

theorem Checked.isUnwritable_iff {settings : Settings.Checked} :
    settings.IsUnwritable ↔ ∃ cause, settings.problem? = some cause ∧ cause.isWritable = false := by
  have isSupported : ¬ (settings.method ≠ "GET" ∧ settings.method ≠ "POST") ↔
      settings.method = "GET" ∨ settings.method = "POST" := by
    rw [not_and_or, not_not, not_not]
  unfold problem?
  constructor
  · rintro ⟨method, timeout, attempts, isLong⟩
    rw [if_neg (isSupported.mpr method), if_neg (by simp [timeout]), if_pos attempts]
    refine ⟨_, rfl, ?_⟩
    simpa [SettingsError.isWritable] using Number.isLong_iff.mpr isLong
  · rintro ⟨cause, isProblem, notWritable⟩
    split at isProblem
    · cases isProblem
      cases notWritable
    · rename_i method
      split at isProblem
      · cases isProblem
        cases notWritable
      · rename_i timeout
        split at isProblem
        · rename_i attempts
          cases isProblem
          have isLong : Number.isLong settings.attempts = true := by
            simpa [SettingsError.isWritable] using notWritable
          exact ⟨isSupported.mp method, by simpa using timeout, attempts, Number.isLong_iff.mp isLong⟩
        · split at isProblem
          · cases isProblem
            cases notWritable
          · cases isProblem

/-- The faults of checking the fields of a mapping. -/
inductive FieldsFault (fields : List (Value × Value)) : Fault → Prop
  | unreadable (hasNumber : HasUnreadableNumber fields) : FieldsFault fields .overflow
  | unwritable {settings : Settings.Checked} (isRead : (read fields).Yields settings)
      (isUnwritable : settings.IsUnwritable) : FieldsFault fields .badValue

theorem check_faults : (check (.map fields)).Faults fault ↔ FieldsFault fields fault := by
  unfold check
  simp only [faults_bind, read_faults]
  constructor
  · rintro (⟨rfl, hasNumber⟩ | ⟨settings, isRead, failed⟩)
    · exact .unreadable hasNumber
    · split at failed
      · rename_i cause isProblem
        split at failed
        · exact absurd failed not_faults_wrong
        · rename_i notWritable
          cases faults_lift.mp failed
          exact .unwritable isRead (Checked.isUnwritable_iff.mpr ⟨cause, isProblem, by simpa using notWritable⟩)
      · exact absurd failed not_faults_pure
  · intro isFault
    cases isFault with
    | unreadable hasNumber => exact .inl ⟨rfl, hasNumber⟩
    | unwritable isRead isUnwritable =>
        rcases Checked.isUnwritable_iff.mp isUnwritable with ⟨cause, isProblem, notWritable⟩
        refine .inr ⟨_, isRead, ?_⟩
        simp [isProblem, notWritable]

/-! ## Files -/

variable {bytes : List UInt8} {path : String}

/-- The contents of a file that are caught by no check. -/
inductive Escapes (bytes : List UInt8) : Fault → Prop
  /-- The bytes are no text. -/
  | undecodable (noText : Text.Utf8.decode? bytes = none) : Escapes bytes .undecodable
  /-- The reader of documents fails otherwise than by finding that the text is no YAML. -/
  | document {text : List Char} {cause : Yaml.DocumentError} {fault : Fault}
      (isText : Text.Utf8.decode? bytes = some text) (failed : Yaml.parse text = .error cause)
      (isFault : cause.problem.Faults fault) : Escapes bytes fault
  /-- The document is a mapping with a field that is no good. -/
  | fields {text : List Char} {fields : List (Value × Value)} {fault : Fault}
      (isText : Text.Utf8.decode? bytes = some text) (isMapping : Yaml.parse text = .ok (.map fields))
      (isFault : FieldsFault fields fault) : Escapes bytes fault

theorem document_faults : (document bytes).Faults fault ↔
    Text.Utf8.decode? bytes = none ∧ fault = .undecodable ∨
      ∃ text cause, Text.Utf8.decode? bytes = some text ∧ Yaml.parse text = .error cause ∧
        cause.problem.Faults fault := by
  unfold document
  split
  · rename_i noText
    simp [noText]
  · rename_i text isText
    simp only [isText, reduceCtorEq, false_and, false_or, Option.some.injEq, exists_and_left, exists_eq_left']
    split
    · rename_i parsed
      simp [parsed]
    · rename_i failed
      simp [failed]

theorem document_yields {value : Value} : (document bytes).Yields value ↔
    ∃ text, Text.Utf8.decode? bytes = some text ∧ Yaml.parse text = .ok value := by
  unfold document
  split
  · rename_i noText
    simp only [noText, reduceCtorEq, false_and, exists_false, iff_false]
    rintro ⟨⟩
  · rename_i text isText
    simp only [isText, Option.some.injEq, exists_eq_left']
    split
    · rename_i parsed
      simp [parsed]
    · rename_i cause failed
      simp only [failed, reduceCtorEq, iff_false]
      cases cause <;> rintro ⟨⟩

theorem ofBytes_faults : (ofBytes bytes).Faults fault ↔ Escapes bytes fault := by
  unfold ofBytes
  simp only [faults_bind, document_faults, document_yields]
  constructor
  · rintro ((⟨noText, rfl⟩ | ⟨text, cause, isText, failed, isFault⟩) | ⟨value, ⟨text, isText, parsed⟩, failed⟩)
    · exact .undecodable noText
    · exact .document isText failed isFault
    · split at failed
      · exact .fields isText parsed (check_faults.mp failed)
      · exact absurd failed not_faults_wrong
  · intro escapes
    cases escapes with
    | undecodable noText => exact .inl (.inl ⟨noText, rfl⟩)
    | document isText failed isFault => exact .inl (.inr ⟨_, _, isText, failed, isFault⟩)
    | fields isText isMapping isFault => exact .inr ⟨_, ⟨_, isText, isMapping⟩, check_faults.mpr isFault⟩

theorem outcome_eq_error {context : Option String} {reading : Reading Settings.Checked} {failure : Failure} :
    outcome context reading = .error failure ↔ ∃ fault, failure = .fault fault ∧ reading.Faults fault := by
  unfold outcome Reading.Faults
  split
  · rename_i fault isFault
    simp [isFault, misuse, eq_comm]
  · rename_i isProblem
    simp [isProblem]
  · rename_i isRead
    simp [isRead]

theorem load_eq_error {failure : Failure} :
    load path (some bytes) = .error failure ↔ ∃ fault, failure = .fault fault ∧ Escapes bytes fault := by
  simp only [load, outcome_eq_error, ofBytes_faults]

end Settings

/-! ## Clients -/

namespace Client

open Settings

variable {bytes : List UInt8} {path : String} {failure : Failure}

/-- No client comes of an endpoint that is missing or cannot be spelled. -/
theorem create_eq_error {settings : Settings} : create .null settings = .error failure ↔
    settings.endpoint = .null ∧ failure = .configuration "No SPARQL endpoint configured" ∨
      ∃ fault, failure = .fault fault ∧ settings.endpoint.textFault? = some fault := by
  unfold create
  simp only
  split
  · rename_i isNull
    simp [isNull, Value.textFault?, Value.displayFault?, eq_comm]
  · rename_i statements isGraph
    simp [isGraph, Value.textFault?, Value.displayFault?]
  · rename_i notNull _
    have notMissing : settings.endpoint ≠ .null := fun isNull => notNull isNull
    simp only [notMissing, false_and, false_or]
    unfold Value.spell
    split
    · rename_i fault isFault
      simp [isFault, misuse, Except.map, eq_comm]
    · rename_i noFault
      simp [noFault, Except.map]

theorem ofFile_eq_error : ofFile path (some bytes) = .error failure ↔
    (∃ problem, load path (some bytes) = .ok (.error problem) ∧ failure = problem.failure) ∨
      (∃ settings, load path (some bytes) = .ok (.ok settings) ∧ settings.endpoint = .null ∧
        failure = .configuration "No SPARQL endpoint configured") ∨
      ∃ fault, failure = .fault fault ∧ (Escapes bytes fault ∨
        ∃ settings, load path (some bytes) = .ok (.ok settings) ∧ settings.endpoint.textFault? = some fault) := by
  unfold ofFile
  rw [Outcome.bind_eq_error, load_eq_error]
  constructor
  · rintro (⟨fault, rfl, escapes⟩ | ⟨problem | settings, loaded, failed⟩)
    · exact .inr (.inr ⟨fault, rfl, .inl escapes⟩)
    · cases failed
      exact .inl ⟨problem, loaded, rfl⟩
    · rcases create_eq_error.mp failed with ⟨isMissing, rfl⟩ | ⟨fault, rfl, isFault⟩
      · exact .inr (.inl ⟨settings, loaded, isMissing, rfl⟩)
      · exact .inr (.inr ⟨fault, rfl, .inr ⟨settings, loaded, isFault⟩⟩)
  · rintro (⟨problem, loaded, rfl⟩ | ⟨settings, loaded, isMissing, rfl⟩ |
      ⟨fault, rfl, escapes | ⟨settings, loaded, isFault⟩⟩)
    · exact .inr ⟨_, loaded, rfl⟩
    · exact .inr ⟨_, loaded, create_eq_error.mpr (.inl ⟨isMissing, rfl⟩)⟩
    · exact .inl ⟨fault, rfl, escapes⟩
    · exact .inr ⟨_, loaded, create_eq_error.mpr (.inr ⟨fault, rfl, isFault⟩)⟩

end Client

namespace Settings

/-- Loading a file gives settings or reports a problem, and building a client of it gives a client or a failure of the
configuration, unless the contents are among those that no check catches; a client is also not built if its
endpoint holds a number of too many digits. -/
theorem file_contained (path : String) (bytes : List UInt8) :
    (∀ failure, load path (some bytes) = .error failure ↔ ∃ fault, failure = .fault fault ∧ Escapes bytes fault) ∧
      (∀ failure, Client.ofFile path (some bytes) = .error failure →
        (∃ message, failure = .configuration message) ∨ ∃ fault, failure = .fault fault) ∧
      ∀ fault, Client.ofFile path (some bytes) = misuse fault ↔ Escapes bytes fault ∨
        ∃ settings, load path (some bytes) = .ok (.ok settings) ∧ settings.endpoint.textFault? = some fault := by
  refine ⟨fun failure => load_eq_error, ?_, ?_⟩
  · intro failure failed
    rcases Client.ofFile_eq_error.mp failed with ⟨problem, _, rfl⟩ | ⟨_, _, _, rfl⟩ | ⟨fault, rfl, _⟩
    · exact .inl ⟨_, rfl⟩
    · exact .inl ⟨_, rfl⟩
    · exact .inr ⟨fault, rfl⟩
  · intro fault
    unfold misuse
    rw [Client.ofFile_eq_error]
    constructor
    · rintro (⟨problem, _, ⟨⟩⟩ | ⟨_, _, _, ⟨⟩⟩ | ⟨_, ⟨⟩, escapes⟩)
      exact escapes
    · intro escapes
      exact .inr (.inr ⟨fault, rfl, escapes⟩)

theorem fault_of_infiniteAttempts :
    (match load "settings.yaml" (some "retry: \x7battempts: .inf\x7d\n".toUTF8.toList) with
      | .error (.fault fault) => some fault
      | _ => none) = some Fault.overflow := by
  decide +kernel

/-- A number of attempts without end is neither taken nor reported. -/
theorem load_infiniteAttempts :
    load "settings.yaml" (some "retry: \x7battempts: .inf\x7d\n".toUTF8.toList) = misuse .overflow ∧
      Client.ofFile "settings.yaml" (some "retry: \x7battempts: .inf\x7d\n".toUTF8.toList) = misuse .overflow := by
  have isFault := fault_of_infiniteAttempts
  have loaded : load "settings.yaml" (some "retry: \x7battempts: .inf\x7d\n".toUTF8.toList) = misuse .overflow := by
    split at isFault
    · rename_i failed
      cases isFault
      exact failed
    · cases isFault
  refine ⟨loaded, ?_⟩
  unfold Client.ofFile
  rw [loaded]
  rfl

end Settings

end Sparql
