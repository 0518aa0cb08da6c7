import Astrix.Library.JsonValue

/-!
# Script keys

A deployment id may be given as it stands or within a URL of several forms. The
loader brings every id to its normal form, drops the entries whose form it has
seen and validates the others. What survives is a fixed point of all that: it
is free of slashes and white space, so it is read back from the form it is
saved in and from the URL that the carrier posts to.
-/

namespace Astrix

open PyRuntime

set_option autoImplicit false

/-- An entry holds texts once it is parsed and any JSON values before. -/
structure ScriptKeyEntry (Value : Type) where
  id : Value
  account : Value
  deriving DecidableEq

def slash : CodePoint := 47

/-- The loop over the parts: the one behind the first `s` that has one behind it. -/
def behindScript : List Text → Option Text
  | part :: next :: rest => if part = literal "s" then some next else behindScript (next :: rest)
  | _ => none

/-- `_normalize_deployment_id`. -/
def normalizeDeploymentId (v : Text) : Text :=
  let v := strip v
  if v = [] then []
  else
    let v := rstripChar slash v
    let v := removeSuffix (literal "/exec") v
    let v := stripChar slash v
    let parts := v.splitOn slash
    (behindScript parts).getD (parts.getLastD v)

def invalidKey (index : Nat) (problem : Text) : LoadError :=
  .valueError (literal "script_keys[" ++ decimalText index ++ literal "]: " ++ problem)

/-- `_validate_deployment_id`. -/
def validateDeploymentId (id : Text) (index : Nat) : Except LoadError Unit := do
  failIf (id = []) (invalidKey index (literal "empty value"))
  failIf (id = literal "REPLACE_WITH_DEPLOYMENT_ID" ∨ id = literal "OPTIONAL_SECOND_DEPLOYMENT_ID")
    (invalidKey index (literal "still contains placeholder text"))
  failIf (literal "/edit" <:+: id ∨ literal "script.google.com/d/" <:+: id)
    (invalidKey index (literal "looks like an editor URL, not a Deployment ID"))
  failIf (id.any isSpace = true) (invalidKey index (literal "contains whitespace"))
  failIf (¬ literal "AKfycb" <+: id)
    (invalidKey index (literal "deployment IDs start with 'AKfycb'"))
  failIf (id.length < 50)
    (invalidKey index
      (literal "too short (" ++ decimalText id.length ++ literal " chars; expected ~70)"))

def readEntry (index : Nat) : Json → Except LoadError (ScriptKeyEntry Json)
  | .string id => .ok { id := .string id, account := .string [] }
  | .object fields =>
      .ok {
        id := (lookup fields (literal "id")).getD (.string [])
        account := (lookup fields (literal "account")).getD (.string []) }
  | _ => .error (invalidKey index (literal "must be a string or object with 'id' field"))

/-- The loop of `_parse_script_keys`; `seen` is `seen_ids`. -/
def parseEntries (index : Nat) (seen : List Text) :
    List Json → Except LoadError (List (ScriptKeyEntry Text))
  | [] => .ok []
  | item :: rest => do
      let entry ← readEntry index item
      let id ← entry.id.asText
      let dedupId := normalizeDeploymentId id
      if dedupId ∈ seen then parseEntries (index + 1) seen rest
      else
        validateDeploymentId dedupId index
        let account ← entry.account.stripped
        let entries ← parseEntries (index + 1) (dedupId :: seen) rest
        .ok ({ id := dedupId, account := account } :: entries)

/-- `_parse_script_keys`. -/
def parseScriptKeys (raw : Json) : Except LoadError (List (ScriptKeyEntry Text)) :=
  if raw.truthy then do
    let items ← raw.iterate
    parseEntries 0 [] items
  else .ok []

/-- An entry in the form that `_save_config` and `_export_config` write. -/
def savedScriptKey (entry : ScriptKeyEntry Text) : Json :=
  if entry.account ≠ [] then
    .object [(literal "id", .string entry.id), (literal "account", .string entry.account)]
  else .string entry.id

/-- The URL that `Carrier.__init__` builds from an id. -/
def baseUrl (id : Text) : Text :=
  literal "https://script.google.com/macros/s/" ++ id ++ literal "/exec"

section NormalForm

/-- Nothing in the text ends a part or is taken away. -/
structure Plain (id : Text) : Prop where
  free : slash ∉ id
  solid : ∀ point ∈ id, isSpace point = false

theorem behind_script_mem {parts : List Text} {part : Text}
    (found : behindScript parts = some part) : part ∈ parts := by
  fun_induction behindScript parts with
  | case1 next rest =>
      cases found
      exact List.mem_cons_of_mem _ (List.mem_cons_self ..)
  | case2 first next rest other ih => exact List.mem_cons_of_mem _ (ih found)
  | case3 parts short => cases found

/-- A normal form is one part. -/
theorem normal_free (v : Text) : slash ∉ normalizeDeploymentId v := by
  unfold normalizeDeploymentId
  dsimp only
  split_ifs with empty
  · exact List.not_mem_nil
  · generalize stripChar slash
      (removeSuffix (literal "/exec") (rstripChar slash (strip v))) = inner
    cases found : behindScript (inner.splitOn slash) with
    | some part => exact split_part_free (behind_script_mem found)
    | none =>
        rw [Option.getD_none, List.getLastD_eq_getLast?,
          List.getLast?_eq_some_getLast (List.splitOn_ne_nil slash inner), Option.getD_some]
        exact split_part_free (List.getLast_mem _)

variable {id : Text}

theorem Plain.no_suffix (plain : Plain id) : ¬ literal "/exec" <:+ id :=
  fun suffix => plain.free (suffix.subset (by decide))

theorem Plain.normal (plain : Plain id) : normalizeDeploymentId id = id := by
  have other : ∀ point ∈ id, (point == slash) = false := by
    intro point member
    rw [beq_eq_false_iff_ne]
    intro same
    rcases same with rfl
    exact plain.free member
  have stripped : strip id = id := trim_self plain.solid
  have ends : rstripChar slash id = id := by
    rw [rstripChar, List.rdropWhile_eq_self_iff]
    intro inside
    rw [other _ (List.getLast_mem inside)]
    decide
  have both : stripChar slash id = id := trim_self other
  have parts : id.splitOn slash = [id] := List.splitOn_eq_singleton plain.free
  unfold normalizeDeploymentId
  dsimp only
  rw [stripped, ends, remove_suffix_self plain.no_suffix, both, parts]
  split_ifs with empty
  · exact empty.symm
  · rfl

/-- The carrier's URL of an id is a spelling of that id. -/
theorem Plain.base_url_normal (plain : Plain id) (some : id ≠ []) :
    normalizeDeploymentId (baseUrl id) = id := by
  obtain ⟨inner, last, rfl⟩ : ∃ inner last, id = inner ++ [last] :=
    ⟨id.dropLast, id.getLast some, (List.dropLast_append_getLast some).symm⟩
  have front : literal "https://script.google.com/macros/s/" =
      104 :: literal "ttps://script.google.com/macros/s/" := by decide +kernel
  have back : literal "/exec" = literal "/exe" ++ [99] := by decide +kernel
  have whole : baseUrl (inner ++ [last]) =
      104 :: (literal "ttps://script.google.com/macros/s/" ++ (inner ++ [last]) ++
        literal "/exe") ++ [99] := by
    rw [baseUrl, front, back]
    simp only [List.append_assoc, List.cons_append]
  have stripped : strip (baseUrl (inner ++ [last])) = baseUrl (inner ++ [last]) := by
    rw [whole]
    exact trim_ends (by decide) (by decide)
  have ends : rstripChar slash (baseUrl (inner ++ [last])) = baseUrl (inner ++ [last]) := by
    rw [whole]
    exact List.rdropWhile_concat_neg _ _ _ (by decide)
  have cut : removeSuffix (literal "/exec") (baseUrl (inner ++ [last])) =
      literal "https://script.google.com/macros/s/" ++ (inner ++ [last]) :=
    remove_suffix_append _ _
  have lastOther : (last == slash) = false := by
    rw [beq_eq_false_iff_ne]
    intro same
    rcases same with rfl
    exact plain.free (List.mem_append_right _ (List.mem_singleton_self _))
  have both : stripChar slash (literal "https://script.google.com/macros/s/" ++ (inner ++ [last])) =
      literal "https://script.google.com/macros/s/" ++ (inner ++ [last]) := by
    rw [front, ← List.append_assoc, List.cons_append]
    exact trim_ends (by decide) lastOther
  have parts : (literal "https://script.google.com/macros/s/" ++ (inner ++ [last])).splitOn slash =
      [literal "https:", [], literal "script.google.com", literal "macros", literal "s",
        inner ++ [last]] := by
    have base : literal "https://script.google.com/macros/s/" =
        literal "https://script.google.com/macros/s" ++ [slash] := by decide +kernel
    have known : (literal "https://script.google.com/macros/s").splitOn slash =
        [literal "https:", [], literal "script.google.com", literal "macros", literal "s"] := by
      decide +kernel
    rw [base, List.append_assoc, List.singleton_append, List.splitOn_append_cons_self, known,
      List.splitOn_eq_singleton plain.free]
    rfl
  unfold normalizeDeploymentId
  dsimp only
  have others : literal "https:" ≠ literal "s" ∧ ([] : Text) ≠ literal "s" ∧
      literal "script.google.com" ≠ literal "s" ∧ literal "macros" ≠ literal "s" := by
    decide +kernel
  rw [stripped, ends, cut, both, parts, if_neg (by rw [whole]; exact List.cons_ne_nil _ _)]
  simp only [behindScript, if_neg others.1, if_neg others.2.1, if_neg others.2.2.1,
    if_neg others.2.2.2, if_true, Option.getD_some]

end NormalForm

section Validation

/-- A deployment id as the loader keeps it. -/
structure Canonical (id : Text) : Prop extends Plain id where
  starts : literal "AKfycb" <+: id
  long : 50 ≤ id.length

theorem Canonical.nonempty {id : Text} (canonical : Canonical id) : id ≠ [] := by
  intro empty
  have long := canonical.long
  rw [empty] at long
  cases long

/-- Of an id without slashes, the validation checks the start, the length and that
there is no white space; it does not depend on the index. -/
theorem validate_ok_iff {id : Text} (free : slash ∉ id) (index : Nat) :
    validateDeploymentId id index = .ok () ↔ Canonical id := by
  have checks : validateDeploymentId id index = .ok () ↔
      ¬ id = [] ∧
        ¬ (id = literal "REPLACE_WITH_DEPLOYMENT_ID" ∨
          id = literal "OPTIONAL_SECOND_DEPLOYMENT_ID") ∧
        ¬ (literal "/edit" <:+: id ∨ literal "script.google.com/d/" <:+: id) ∧
        ¬ id.any isSpace = true ∧ ¬ ¬ literal "AKfycb" <+: id ∧ ¬ id.length < 50 := by
    simp only [validateDeploymentId, bind_ok_iff, fail_if_ok_iff, exists_const]
  rw [checks]
  constructor
  · intro given
    rcases given with ⟨_, _, _, solid, starts, long⟩
    refine { free := free, solid := ?_, starts := not_not.mp starts, long := Nat.not_lt.mp long }
    intro point member
    rw [List.any_eq_true] at solid
    exact Bool.eq_false_iff.mpr fun space => solid ⟨point, member, space⟩
  · intro canonical
    have long := canonical.long
    have short : (literal "REPLACE_WITH_DEPLOYMENT_ID").length < 50 ∧
        (literal "OPTIONAL_SECOND_DEPLOYMENT_ID").length < 50 := by decide +kernel
    have slashed : slash ∈ literal "/edit" ∧ slash ∈ literal "script.google.com/d/" := by
      decide +kernel
    refine ⟨canonical.nonempty, ?_, ?_, ?_, not_not.mpr canonical.starts, Nat.not_lt.mpr long⟩
    · intro given
      rcases given with same | same
      · exact absurd short.1 (Nat.not_lt.mpr (same ▸ long))
      · exact absurd short.2 (Nat.not_lt.mpr (same ▸ long))
    · intro given
      rcases given with inside | inside
      · exact free (inside.subset slashed.1)
      · exact free (inside.subset slashed.2)
    · intro space
      obtain ⟨point, member, isSpace⟩ := List.any_eq_true.mp space
      rw [canonical.solid point member] at isSpace
      cases isSpace

/-- The fixed points of normalisation that validate are the canonical ids. -/
theorem canonical_iff {id : Text} :
    normalizeDeploymentId id = id ∧ (∀ index, validateDeploymentId id index = .ok ()) ↔
      Canonical id := by
  constructor
  · intro given
    rcases given with ⟨normal, valid⟩
    have free : slash ∉ id := normal ▸ normal_free id
    exact (validate_ok_iff free 0).mp (valid 0)
  · intro canonical
    exact ⟨canonical.normal, fun index => (validate_ok_iff canonical.free index).mpr canonical⟩

end Validation

section Parsing

/-- The id of an item in normal form. -/
def normalId (item : Json) : Option Text :=
  match readEntry 0 item with
  | .ok { id := .string id, .. } => some (normalizeDeploymentId id)
  | _ => none

/-- The account of an item as it is kept. -/
def keptAccount (item : Json) : Option Text :=
  match readEntry 0 item with
  | .ok { account := .string account, .. } => some (strip account)
  | _ => none

theorem read_entry_index {index other : Nat} {item : Json} {entry : ScriptKeyEntry Json}
    (read : readEntry index item = .ok entry) : readEntry other item = .ok entry := by
  cases item with
  | string | object => exact read
  | null | bool | integer | real | infinite | array => cases read

/-- What one round of the loop does: the form was seen before, or the entry is kept. -/
theorem parse_cons_cases {index : Nat} {seen : List Text} {item : Json} {rest : List Json}
    {entries : List (ScriptKeyEntry Text)}
    (parsed : parseEntries index seen (item :: rest) = .ok entries) :
    ∃ id, normalId item = some id ∧
      ((id ∈ seen ∧ parseEntries (index + 1) seen rest = .ok entries) ∨
        ∃ account later, id ∉ seen ∧ Canonical id ∧ keptAccount item = some account ∧
          parseEntries (index + 1) (id :: seen) rest = .ok later ∧
          entries = { id := id, account := account } :: later) := by
  rw [parseEntries] at parsed
  obtain ⟨entry, read, parsed⟩ := (bind_ok_iff _ _ _).mp parsed
  obtain ⟨raw, isText, parsed⟩ := (bind_ok_iff _ _ _).mp parsed
  rw [Json.as_text_ok_iff] at isText
  have found : normalId item = some (normalizeDeploymentId raw) := by
    rw [normalId, read_entry_index read]
    obtain ⟨id, account⟩ := entry
    dsimp only at isText
    rw [isText]
  refine ⟨_, found, ?_⟩
  dsimp only at parsed
  split_ifs at parsed with before
  · exact .inl ⟨before, parsed⟩
  · obtain ⟨_, valid, parsed⟩ := (bind_ok_iff _ _ _).mp parsed
    obtain ⟨account, trimmed, parsed⟩ := (bind_ok_iff _ _ _).mp parsed
    obtain ⟨later, parsedLater, result⟩ := (bind_ok_iff _ _ _).mp parsed
    obtain ⟨rawAccount, isAccount, rfl⟩ := Json.stripped_ok_iff.mp trimmed
    have kept : keptAccount item = some (strip rawAccount) := by
      rw [keptAccount, read_entry_index read]
      obtain ⟨id, account⟩ := entry
      dsimp only at isAccount
      rw [isAccount]
    have canonical := (validate_ok_iff (normal_free raw) index).mp valid
    exact .inr ⟨_, later, before, canonical, kept, parsedLater, (Except.ok.inj result).symm⟩

/-- What the loop keeps: canonical ids with trimmed accounts, all new and distinct. -/
structure KeptKeys (seen : List Text) (entries : List (ScriptKeyEntry Text)) : Prop where
  canonical : ∀ entry ∈ entries, Canonical entry.id
  trimmed : ∀ entry ∈ entries, strip entry.account = entry.account
  fresh : ∀ entry ∈ entries, entry.id ∉ seen
  distinct : (entries.map ScriptKeyEntry.id).Nodup

theorem kept_account_trimmed {item : Json} {account : Text}
    (kept : keptAccount item = some account) : strip account = account := by
  unfold keptAccount at kept
  split at kept
  · cases kept
    exact strip_strip _
  · cases kept

theorem parse_kept {index : Nat} {seen : List Text} {items : List Json}
    {entries : List (ScriptKeyEntry Text)} (parsed : parseEntries index seen items = .ok entries) :
    KeptKeys seen entries := by
  induction items generalizing index seen entries with
  | nil =>
      cases parsed
      exact ⟨List.forall_mem_nil _, List.forall_mem_nil _, List.forall_mem_nil _, List.nodup_nil⟩
  | cons item rest ih =>
      obtain ⟨id, _, ⟨_, skipped⟩ | ⟨account, later, new, canonical, kept, others, rfl⟩⟩ :=
        parse_cons_cases parsed
      · exact ih skipped
      · have behind := ih others
        refine ⟨?_, ?_, ?_, ?_⟩
        · exact List.forall_mem_cons.mpr ⟨canonical, behind.canonical⟩
        · exact List.forall_mem_cons.mpr ⟨kept_account_trimmed kept, behind.trimmed⟩
        · exact List.forall_mem_cons.mpr
            ⟨new, fun entry member seen => behind.fresh entry member (List.mem_cons_of_mem _ seen)⟩
        · rw [List.map_cons, List.nodup_cons]
          refine ⟨?_, behind.distinct⟩
          intro again
          obtain ⟨entry, member, same⟩ := List.mem_map.mp again
          exact behind.fresh entry member (same ▸ List.mem_cons_self ..)

def notIn (seen : List Text) (id : Option Text) : Bool := !(seen.map some).contains id

/-- The ids in order of first occurrence, less those seen before. -/
theorem parse_ids {index : Nat} {seen : List Text} {items : List Json}
    {entries : List (ScriptKeyEntry Text)} (parsed : parseEntries index seen items = .ok entries) :
    entries.map (fun entry => some entry.id) =
      ((items.map normalId).filter (notIn seen)).eraseDups := by
  induction items generalizing index seen entries with
  | nil =>
      cases parsed
      rfl
  | cons item rest ih =>
      obtain ⟨id, found, ⟨before, parsedRest⟩ | ⟨account, later, new, _, _, parsedRest, rfl⟩⟩ :=
        parse_cons_cases parsed
      · have skipped : notIn seen (some id) = false := by
          simpa [notIn] using before
        rw [ih parsedRest, List.map_cons, found, List.filter_cons_of_neg (by rw [skipped]; decide)]
      · have taken : notIn seen (some id) = true := by
          simpa [notIn] using new
        have forms : (item :: rest).map normalId = some id :: rest.map normalId := by
          rw [List.map_cons, found]
        rw [forms, List.filter_cons_of_pos taken, List.eraseDups_cons, List.filter_filter,
          List.map_cons, ih parsedRest]
        refine congrArg (some id :: ·) (congrArg List.eraseDups (List.filter_congr ?_))
        intro other _
        rw [notIn, List.map_cons, List.contains_cons, Bool.not_or, notIn]

/-- Every entry is that of the first item with its id. -/
theorem parse_first {index : Nat} {seen : List Text} {items : List Json}
    {entries : List (ScriptKeyEntry Text)} (parsed : parseEntries index seen items = .ok entries) :
    ∀ entry ∈ entries, ∃ before item after, items = before ++ item :: after ∧
      normalId item = some entry.id ∧ keptAccount item = some entry.account ∧
        ∀ other ∈ before, normalId other ≠ some entry.id := by
  induction items generalizing index seen entries with
  | nil =>
      cases parsed
      exact List.forall_mem_nil _
  | cons item rest ih =>
      intro entry member
      obtain ⟨id, found, ⟨seenBefore, parsedRest⟩ | ⟨account, later, new, _, kept, parsedRest, rfl⟩⟩ :=
        parse_cons_cases parsed
      · obtain ⟨before, first, after, rfl, isId, isAccount, others⟩ := ih parsedRest entry member
        refine ⟨item :: before, first, after, rfl, isId, isAccount, ?_⟩
        refine List.forall_mem_cons.mpr ⟨?_, others⟩
        rw [found]
        intro same
        cases same
        exact (parse_kept parsedRest).fresh entry member seenBefore
      · rcases List.mem_cons.mp member with rfl | behind
        · exact ⟨[], item, rest, rfl, found, kept, List.forall_mem_nil _⟩
        · obtain ⟨before, first, after, rfl, isId, isAccount, others⟩ := ih parsedRest entry behind
          refine ⟨item :: before, first, after, rfl, isId, isAccount, ?_⟩
          refine List.forall_mem_cons.mpr ⟨?_, others⟩
          rw [found]
          intro same
          cases same
          exact (parse_kept parsedRest).fresh entry behind (List.mem_cons_self ..)

end Parsing

section Saved

theorem read_saved_entry (index : Nat) (entry : ScriptKeyEntry Text) :
    readEntry index (savedScriptKey entry) =
      .ok { id := .string entry.id, account := .string entry.account } := by
  obtain ⟨id, account⟩ := entry
  unfold savedScriptKey
  split_ifs with some
  · have other : ¬ literal "account" = literal "id" := by decide +kernel
    simp [readEntry, lookup, List.find?, other]
  · rw [ne_eq, not_not] at some
    dsimp only at some
    rw [some, readEntry]

/-- What the loop keeps, it keeps again when it is read back. -/
theorem parse_saved {seen : List Text} {entries : List (ScriptKeyEntry Text)}
    (kept : KeptKeys seen entries) (index : Nat) :
    parseEntries index seen (entries.map savedScriptKey) = .ok entries := by
  induction entries generalizing seen index with
  | nil => rfl
  | cons entry rest ih =>
      have canonical := kept.canonical entry (List.mem_cons_self ..)
      have new := kept.fresh entry (List.mem_cons_self ..)
      have trimmed := kept.trimmed entry (List.mem_cons_self ..)
      obtain ⟨absent, distinct⟩ := List.nodup_cons.mp kept.distinct
      have behind : KeptKeys (entry.id :: seen) rest := by
        refine ⟨?_, ?_, ?_, distinct⟩
        · exact fun other member => kept.canonical other (List.mem_cons_of_mem _ member)
        · exact fun other member => kept.trimmed other (List.mem_cons_of_mem _ member)
        · intro other member seenBefore
          rcases List.mem_cons.mp seenBefore with same | before
          · exact absent (same ▸ List.mem_map_of_mem member)
          · exact kept.fresh other (List.mem_cons_of_mem _ member) before
      have account : (Json.string entry.account).stripped = .ok entry.account :=
        Json.stripped_ok_iff.mpr ⟨_, rfl, trimmed⟩
      rw [List.map_cons, parseEntries]
      refine (bind_ok_iff _ _ _).mpr ⟨_, read_saved_entry index entry, ?_⟩
      refine (bind_ok_iff _ _ _).mpr ⟨entry.id, rfl, ?_⟩
      dsimp only
      rw [canonical.normal, if_neg new]
      have valid := (validate_ok_iff canonical.free index).mpr canonical
      refine (bind_ok_iff _ _ _).mpr ⟨(), valid, ?_⟩
      refine (bind_ok_iff _ _ _).mpr ⟨entry.account, account, ?_⟩
      exact (bind_ok_iff _ _ _).mpr ⟨rest, ih behind (index + 1), rfl⟩

theorem saved_parses {entries : List (ScriptKeyEntry Text)} (kept : KeptKeys [] entries) :
    parseScriptKeys (.array (entries.map savedScriptKey)) = .ok entries := by
  cases entries with
  | nil => rfl
  | cons entry rest => exact parse_saved kept 0

/-- A list is parsed item by item. -/
theorem parse_array {items : List Json} {entries : List (ScriptKeyEntry Text)}
    (parsed : parseScriptKeys (.array items) = .ok entries) :
    parseEntries 0 [] items = .ok entries := by
  cases items with
  | nil => exact parsed
  | cons item rest => exact parsed

theorem parse_keys_kept {raw : Json} {entries : List (ScriptKeyEntry Text)}
    (parsed : parseScriptKeys raw = .ok entries) : KeptKeys [] entries := by
  unfold parseScriptKeys at parsed
  split_ifs at parsed
  · obtain ⟨items, _, each⟩ := (bind_ok_iff _ _ _).mp parsed
    exact parse_kept each
  · cases parsed
    exact @parse_kept 0 [] [] [] rfl

/-- The first item is always kept. -/
theorem parse_keys_some {raw : Json} {entries : List (ScriptKeyEntry Text)}
    (given : raw.truthy = true) (parsed : parseScriptKeys raw = .ok entries) : entries ≠ [] := by
  rw [parseScriptKeys, if_pos given] at parsed
  obtain ⟨items, iterated, each⟩ := (bind_ok_iff _ _ _).mp parsed
  cases items with
  | nil => exact absurd rfl (Json.iterate_some given iterated)
  | cons item rest =>
      obtain ⟨id, _, ⟨before, _⟩ | ⟨account, later, _, _, _, _, rfl⟩⟩ := parse_cons_cases each
      · exact absurd before List.not_mem_nil
      · exact List.cons_ne_nil _ _

end Saved

/-- Distinct ids in order of first occurrence, valid and each that of the first
item with it; the saved form and the carrier's URLs are read back as they were. -/
theorem script_keys_canonical (items : List Json) (entries : List (ScriptKeyEntry Text))
    (accepted : parseScriptKeys (.array items) = .ok entries) :
    (entries.map ScriptKeyEntry.id).Nodup ∧
      (∀ entry ∈ entries, ∀ index, validateDeploymentId entry.id index = .ok ()) ∧
      entries.map (fun entry => some entry.id) = (items.map normalId).eraseDups ∧
      (∀ entry ∈ entries, ∃ before item after, items = before ++ item :: after ∧
        normalId item = some entry.id ∧ keptAccount item = some entry.account ∧
          ∀ other ∈ before, normalId other ≠ some entry.id) ∧
      parseScriptKeys (.array (entries.map savedScriptKey)) = .ok entries ∧
      ∀ entry ∈ entries, normalizeDeploymentId (baseUrl entry.id) = entry.id := by
  have parsed := parse_array accepted
  have kept := parse_kept parsed
  have all : (items.map normalId).filter (notIn []) = items.map normalId :=
    List.filter_eq_self.mpr fun id _ => rfl
  have ids := parse_ids parsed
  rw [all] at ids
  constructor
  · exact kept.distinct
  constructor
  · intro entry member
    have canonical := kept.canonical entry member
    exact fun index => (validate_ok_iff canonical.free index).mpr canonical
  constructor
  · exact ids
  constructor
  · exact parse_first parsed
  constructor
  · exact saved_parses kept
  · intro entry member
    have canonical := kept.canonical entry member
    exact canonical.base_url_normal canonical.nonempty

def sampleId : Text := literal "AKfycb" ++ List.replicate 44 120

/-- One id in two spellings, and the account of the first. -/
def sampleItems : List Json :=
  [.object [(literal "account", .string (literal " a ")),
    (literal "id", .string (literal " " ++ baseUrl sampleId ++ literal "/"))], .string sampleId]

theorem script_keys_canonical_sample :
    parseScriptKeys (.array sampleItems) = .ok [{ id := sampleId, account := literal "a" }] ∧
      normalizeDeploymentId (baseUrl sampleId) = sampleId := by
  have accepted : parseScriptKeys (.array sampleItems) =
      .ok [{ id := sampleId, account := literal "a" }] := by decide +kernel
  obtain ⟨_, _, _, _, _, urls⟩ := script_keys_canonical sampleItems _ accepted
  have url := urls { id := sampleId, account := literal "a" } (List.mem_singleton_self _)
  exact ⟨accepted, url⟩

end Astrix
