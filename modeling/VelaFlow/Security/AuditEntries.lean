import VelaFlow.Security.AuditLog

/-!
# Entries of the audit log

What is kept of an entry: it reads back from its line, and the lines of a text from the text, when
the cipher decrypts what it has encrypted and writes no white space. Entries that carry their own
hash verify exactly when they are a hash chain.
-/
namespace VelaFlow.Security

open JsonText Tenants

section Lines

/-- A token: a line with something in it and no white space. -/
def IsToken (line : List Char) : Prop :=
  line ≠ [] ∧ ∀ character ∈ line, isSpace character = false

/-- A token has nothing to strip. -/
theorem strip_token {line : List Char} (token : IsToken line) : strip line = line :=
  strip_eq_self (fun first is => token.2 first (List.mem_of_mem_head? is))
    (fun last is => token.2 last (List.mem_of_mem_getLast? is))

/-- A text of lines, each with its end. -/
def textOf (lines : List (List Char)) : List Char := lines.flatMap fun line => line ++ ['\n']

/-- The text of one more line. -/
theorem textOf_concat (lines : List (List Char)) (line : List Char) :
    textOf (lines ++ [line]) = textOf lines ++ line ++ ['\n'] := by
  simp [textOf]

/-- A text of lines is the lines with line ends between them, and one at the end. -/
theorem textOf_eq_intercalate {lines : List (List Char)} (some : lines ≠ []) :
    textOf lines = ['\n'].intercalate lines ++ ['\n'] := by
  induction lines with
  | nil => exact absurd rfl some
  | cons line rest ih =>
    cases rest with
    | nil => simp [textOf]
    | cons second more =>
      have later := ih (List.cons_ne_nil _ _)
      unfold textOf at later ⊢
      rw [List.flatMap_cons, later, List.intercalate_cons_of_ne_nil (List.cons_ne_nil _ _)]
      simp

/-- A text of lines ends with the last of them. -/
theorem getLast?_intercalate {line : List Char} (some : line ≠ []) (before : List (List Char)) :
    (['\n'].intercalate (before ++ [line])).getLast? = line.getLast? := by
  induction before with
  | nil => simp
  | cons first rest ih =>
    rw [List.cons_append, List.intercalate_cons_of_ne_nil (by simp)]
    have filled : ['\n'].intercalate (rest ++ [line]) ≠ [] := by
      intro empty
      rw [empty, List.getLast?_nil, eq_comm, List.getLast?_eq_none_iff] at ih
      exact some ih
    rw [List.getLast?_append_of_ne_nil _ filled, ih]

/-- Without its last line end a text of tokens has nothing to strip. -/
theorem strip_textOf {lines : List (List Char)} (tokens : ∀ line ∈ lines, IsToken line)
    (some : lines ≠ []) : strip (textOf lines) = ['\n'].intercalate lines := by
  have opens : ∀ first ∈ (['\n'].intercalate lines).head?, isSpace first = false := by
    cases lines with
    | nil => exact absurd rfl some
    | cons line rest =>
      have token := tokens line List.mem_cons_self
      intro first is
      apply token.2 first
      rw [head?_intercalate '\n' token.1] at is
      exact List.mem_of_mem_head? is
  have closes : ∀ last ∈ (['\n'].intercalate lines).getLast?, isSpace last = false := by
    rcases List.eq_nil_or_concat lines with none | ⟨before, line, rfl⟩
    · exact absurd none some
    · have token := tokens line (by simp)
      intro last is
      apply token.2 last
      rw [List.concat_eq_append, getLast?_intercalate token.1] at is
      exact List.mem_of_mem_getLast? is
  rw [textOf_eq_intercalate some, strip_concat (by decide)]
  exact strip_eq_self opens closes

/-- The lines of a text of tokens. -/
theorem textLines_textOf {lines : List (List Char)} (tokens : ∀ line ∈ lines, IsToken line)
    (some : lines ≠ []) : textLines (textOf lines) = lines := by
  unfold textLines
  rw [strip_textOf tokens some]
  apply List.splitOn_intercalate
  · intro line inside newline
    have space := (tokens line inside).2 '\n' newline
    cases space
  · exact some

end Lines

variable {library : AuditLibrary}

/-- An entry reads back from its dictionary. -/
theorem fromDict_toDict (entry : AuditEntry) :
    AuditEntry.fromDict entry.toDict = .ok entry := by
  simp [AuditEntry.fromDict, AuditEntry.toDict, field, fieldD, typed, asStr, asDict]
  rfl

/-- What every entry of the audit log is. -/
structure IsAudit (library : AuditLibrary) (entry : AuditEntry) : Prop where
  /-- Its detail is held as Python does. -/
  held : (Json.obj entry.detail).held = .obj entry.detail
  /-- It carries its own hash. -/
  hash : entry.chainHash = entry.computeHash library

/-- What a call makes is an entry, which names the hash it was given. -/
theorem isAudit_entry (call : AuditCall) (time : DateTime) (previousHash : String) :
    IsAudit library (call.entry library time previousHash) ∧
      (call.entry library time previousHash).previousHash = previousHash ∧
      (call.entry library time previousHash).tenantId = call.tenantId := by
  refine ⟨⟨?_, rfl⟩, rfl, rfl⟩
  unfold AuditCall.entry
  cases given : call.detail with
  | none => rfl
  | some members => exact call.distinct members given

/-- The line of an entry is a token. -/
theorem isToken_auditLine (laws : CipherLaws library.encryptor) (nonce : String)
    (entry : AuditEntry) : IsToken (auditLine library nonce entry) := by
  refine ⟨fun empty => ?_, laws.spaceless _ _ _ _⟩
  exact laws.filled _ _ _ _ (String.toList_eq_nil_iff.mp empty)

/-- The text of an entry that its line encrypts. -/
def entryText (library : AuditLibrary) (entry : AuditEntry) : String :=
  String.ofList (dumps library.floats (.obj entry.toDict))

/-- An entry reads back from its text. -/
theorem readText_entryText {entry : AuditEntry} (is : IsAudit library entry) :
    readText library (entryText library entry) = some entry := by
  have held : (Json.obj entry.toDict).held = .obj entry.toDict := by
    apply Json.held_obj_iff.mpr
    refine ⟨by simp [Dict.keys, AuditEntry.toDict], ?_⟩
    simp only [AuditEntry.toDict, List.forall_mem_cons]
    exact ⟨rfl, rfl, rfl, rfl, rfl, is.held, rfl, rfl, fun _ none => absurd none List.not_mem_nil⟩
  have text : loads library.floats (dumps library.floats (.obj entry.toDict)) =
      some (.obj entry.toDict) := by
    unfold dumps
    rw [loads_write, held]
  unfold readText entryText
  simp only [String.toList_ofList, text, fromDict_toDict]
  rfl

/-- The text of an entry is known to be its own. -/
theorem entryText_inj {first second : AuditEntry} (one : IsAudit library first)
    (two : IsAudit library second) (same : entryText library first = entryText library second) :
    first = second := by
  have read := congrArg (readText library) same
  rw [readText_entryText one, readText_entryText two] at read
  exact Option.some.inj read

/-- The line of an entry decrypts to its text. -/
theorem openLine_auditLine (laws : CipherLaws library.encryptor) (nonce : String)
    (entry : AuditEntry) :
    openLine library entry.tenantId (auditLine library nonce entry) =
      some (entryText library entry) := by
  have token := isToken_auditLine laws nonce entry
  unfold openLine
  rw [strip_token token, if_neg token.1, auditLine, String.ofList_toList, laws.decrypts]
  rfl

/-- Entries that carry their own hash verify exactly when they are a hash chain. -/
theorem verifyEntries_iff {entries : List AuditEntry}
    (own : ∀ entry ∈ entries, entry.chainHash = entry.computeHash library)
    (previousHash : String) :
    verifyEntries library previousHash entries = true ↔
      HashChain.Linked AuditEntry.previousHash AuditEntry.chainHash previousHash entries := by
  induction entries generalizing previousHash with
  | nil => simp [verifyEntries, HashChain.Linked]
  | cons entry rest ih =>
    have hash := own entry List.mem_cons_self
    rw [verifyEntries, HashChain.Linked]
    by_cases linked : entry.previousHash = previousHash
    · rw [if_neg (by simpa using linked), if_neg (by simpa using hash),
        ih fun other inside => own other (List.mem_cons_of_mem _ inside)]
      exact (and_iff_right linked).symm
    · rw [if_pos linked]
      exact iff_of_false Bool.false_ne_true (fun both => linked both.1)

end VelaFlow.Security
