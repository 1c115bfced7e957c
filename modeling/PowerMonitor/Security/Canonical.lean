import PowerMonitor.Library.PercentEncoding
import PowerMonitor.Security.AgentProtocol
import PowerMonitor.Security.Protocol
import Mathlib.Data.List.Perm.Basic
import Mathlib.Data.List.Sort
import Mathlib.Data.Prod.Lex
import Mathlib.Data.String.Basic

/-! The text of a request that its signature covers.

The fields are joined by newlines. The path stands as it came, and the query pairs are decoded, encoded
again and sorted, so that the order and the spelling of a query do not matter.
-/

set_option autoImplicit false
namespace PowerMonitor.Security
open Library

structure SplitResult where
  path : String
  query : String
  deriving DecidableEq, Repr

/-- `urlsplit` and `parse_qsl`, and the case mappings of texts that are not ASCII. -/
structure UrlFunctions where
  urlsplit : String → SplitResult
  parseQsl : String → List (String × String)
  upper : String → String
  lower : String → String

/-- A signed request, its body as a digest. -/
structure RequestParts where
  method : String
  target : String
  timestamp : String := ""
  nonce : String
  contentSha256 : String
  deriving DecidableEq, Repr

/-- What only the request of a headless agent has. -/
structure AgentParts extends RequestParts where
  deviceId : String
  bootId : String
  counter : Int
  deriving DecidableEq, Repr

section Canonical
variable (urls : UrlFunctions)

def UrlFunctions.path (target : String) : String :=
  let path := (urls.urlsplit target).path
  if path = "" then "/" else path

def UrlFunctions.pairs (target : String) : List (String × String) := urls.parseQsl (urls.urlsplit target).query

def quotePair (pair : String × String) : Lex (String × String) :=
  toLex (percentEncode pair.1, percentEncode pair.2)

/-- The pairs in the order of their encoded texts. -/
def encodedPairs (pairs : List (String × String)) : List (Lex (String × String)) :=
  (pairs.map quotePair).insertionSort (· ≤ ·)

def pairText (pair : Lex (String × String)) : String := (ofLex pair).1 ++ "=" ++ (ofLex pair).2

def queryText (pairs : List (String × String)) : String := "&".intercalate ((encodedPairs pairs).map pairText)

def pathAndQuery (path query : String) : String := if query = "" then path else path ++ "?" ++ query

/-- `canonical_path_and_query` -/
def UrlFunctions.canonicalPathAndQuery (target : String) : String :=
  pathAndQuery (urls.path target) (queryText (urls.pairs target))

/-- `canonical_string` -/
def UrlFunctions.canonicalString (parts : RequestParts) : String :=
  "\n".intercalate [canonicalHeading, urls.upper parts.method, urls.canonicalPathAndQuery parts.target,
    parts.timestamp, parts.nonce, parts.contentSha256]

def UrlFunctions.agentLines (parts : AgentParts) (deviceId bootId : String) : List String :=
  [agentCanonicalHeading, agentProtocol, deviceId, bootId, toString parts.counter, urls.lower parts.nonce,
    urls.upper parts.method, urls.canonicalPathAndQuery parts.target, parts.contentSha256]

/-- `canonical_agent_request`, which raises when an identity is not a UUID. -/
def UrlFunctions.canonicalAgentRequest (parts : AgentParts) : Option ByteArray := do
  let deviceId ← canonicalUuid parts.deviceId
  let bootId ← canonicalUuid parts.bootId
  return ("\n".intercalate (urls.agentLines parts deviceId bootId)).toUTF8

end Canonical

/-! ## Queries -/

def Newlineless (text : String) : Prop := '\n' ∉ text.toList

instance : DecidablePred Newlineless := fun _ => inferInstanceAs (Decidable (¬ _))

theorem quotePair_injective : Function.Injective quotePair := by
  intro first second same
  obtain ⟨key, value⟩ := Prod.mk.inj (toLex.injective same)
  exact Prod.ext (percentEncode_injective key) (percentEncode_injective value)

theorem encodedPairs_eq_iff {pairs others : List (String × String)} :
    encodedPairs pairs = encodedPairs others ↔ pairs.Perm others := by
  have sorted (pairs : List (String × String)) : (encodedPairs pairs).Perm (pairs.map quotePair) :=
    List.perm_insertionSort _ _
  constructor
  · intro same
    refine (List.map_perm_map_iff quotePair_injective).mp ?_
    exact (sorted pairs).symm.trans (same ▸ sorted others)
  · intro same
    have mapped := (sorted pairs).trans ((same.map quotePair).trans (sorted others).symm)
    exact mapped.eq_of_sortedLE List.sortedLE_insertionSort List.sortedLE_insertionSort

/-- Encoded keys and values have none of the characters that put a request together. -/
theorem encodedPairs_plain {pairs : List (String × String)} {pair : Lex (String × String)}
    (member : pair ∈ encodedPairs pairs) {c : Char} (outside : encodedChar c = false) :
    c ∉ (ofLex pair).1.toList ∧ c ∉ (ofLex pair).2.toList := by
  obtain ⟨origin, _, rfl⟩ := List.mem_map.mp ((List.perm_insertionSort _ _).mem_iff.mp member)
  have plain (text : String) : c ∉ (percentEncode text).toList := by
    intro inside
    rw [percentEncode_encoded inside] at outside
    cases outside
  exact ⟨plain origin.1, plain origin.2⟩

theorem pairText_toList (pair : Lex (String × String)) :
    (pairText pair).toList = (ofLex pair).1.toList ++ '=' :: (ofLex pair).2.toList := by
  rw [pairText, String.toList_append, String.toList_append, List.append_assoc]
  rfl

theorem pairText_plain {pairs : List (String × String)} {pair : Lex (String × String)}
    (member : pair ∈ encodedPairs pairs) {c : Char} (outside : encodedChar c = false) (other : c ≠ '=') :
    c ∉ (pairText pair).toList := by
  obtain ⟨key, value⟩ := encodedPairs_plain member outside
  rw [pairText_toList, List.mem_append, List.mem_cons]
  exact fun held => held.elim key fun held => held.elim other value

theorem queryText_toList (pairs : List (String × String)) :
    (queryText pairs).toList = ['&'].intercalate ((encodedPairs pairs).map fun pair => (pairText pair).toList) := by
  rw [queryText, String.toList_intercalate, List.map_map]
  rfl

theorem queryText_plain (pairs : List (String × String)) {c : Char} (outside : encodedChar c = false)
    (equal : c ≠ '=') (apart : c ≠ '&') : c ∉ (queryText pairs).toList := by
  rw [queryText_toList]
  refine not_mem_intercalate apart fun part member => ?_
  obtain ⟨pair, inside, rfl⟩ := List.mem_map.mp member
  exact pairText_plain inside outside equal

theorem pairText_injective {pairs others : List (String × String)} {first second : Lex (String × String)}
    (member : first ∈ encodedPairs pairs) (inside : second ∈ encodedPairs others)
    (same : (pairText first).toList = (pairText second).toList) : first = second := by
  rw [pairText_toList, pairText_toList] at same
  obtain ⟨key, value⟩ := append_cons_injective (encodedPairs_plain member rfl).1 (encodedPairs_plain inside rfl).1 same
  exact ofLex.injective (Prod.ext (String.toList_inj.mp key) (String.toList_inj.mp value))

theorem map_injective_on {α β : Type} {f : α → β} {items others : List α}
    (injective : ∀ first ∈ items, ∀ second ∈ others, f first = f second → first = second)
    (same : items.map f = others.map f) : items = others := by
  induction items generalizing others with
  | nil => exact (List.map_eq_nil_iff.mp same.symm).symm
  | cons first rest ih =>
      cases others with
      | nil => cases same
      | cons second more =>
          obtain ⟨heads, tails⟩ := List.cons.inj same
          rw [injective first List.mem_cons_self second List.mem_cons_self heads,
            ih (fun first member second inside => injective first (List.mem_cons_of_mem _ member) second
              (List.mem_cons_of_mem _ inside)) tails]

/-- A query is empty exactly when it has no pairs: every pair writes its sign of equality. -/
theorem queryText_eq_empty {pairs : List (String × String)} : queryText pairs = "" ↔ encodedPairs pairs = [] := by
  rw [← String.toList_inj, queryText_toList]
  cases encodedPairs pairs with
  | nil => exact iff_of_true rfl rfl
  | cons pair rest =>
      refine iff_of_false (fun none => ?_) (List.cons_ne_nil _ _)
      have sign : '=' ∈ ['&'].intercalate ((pair :: rest).map fun pair => (pairText pair).toList) := by
        have written : '=' ∈ (pairText pair).toList := by
          rw [pairText_toList]
          exact List.mem_append_right _ List.mem_cons_self
        cases rest with
        | nil =>
            rw [List.map_cons, List.map_nil, List.intercalate_singleton]
            exact written
        | cons second more =>
            rw [List.map_cons, List.map_cons, List.intercalate_cons_cons, List.append_assoc]
            exact List.mem_append_left _ written
      rw [none] at sign
      cases sign

theorem queryText_injective {pairs others : List (String × String)} (same : queryText pairs = queryText others) :
    encodedPairs pairs = encodedPairs others := by
  cases first : encodedPairs pairs with
  | nil =>
      rw [queryText_eq_empty.mpr first] at same
      exact (queryText_eq_empty.mp same.symm).symm
  | cons pair rest =>
      have some : encodedPairs pairs ≠ [] := first ▸ List.cons_ne_nil _ _
      have more : encodedPairs others ≠ [] := fun none => some (queryText_eq_empty.mp (same.trans (queryText_eq_empty.mpr none)))
      rw [← first]
      have lists : (queryText pairs).toList = (queryText others).toList := congrArg String.toList same
      rw [queryText_toList, queryText_toList] at lists
      have parts := intercalate_injective (by simpa using some) (by simpa using more)
        (fun part member => by
          obtain ⟨pair, inside, rfl⟩ := List.mem_map.mp member
          exact pairText_plain inside rfl (by decide))
        (fun part member => by
          obtain ⟨pair, inside, rfl⟩ := List.mem_map.mp member
          exact pairText_plain inside rfl (by decide)) lists
      exact map_injective_on (fun first member second inside => pairText_injective member inside) parts

/-! ## Fields -/

theorem pathAndQuery_toList (path query : String) :
    (pathAndQuery path query).toList = path.toList ++ if query = "" then [] else '?' :: query.toList := by
  unfold pathAndQuery
  split
  · exact (List.append_nil _).symm
  · rw [String.toList_append, String.toList_append, List.append_assoc]
    rfl

/-- A path without a question mark ends where the query begins. -/
theorem pathAndQuery_injective {path query other rest : String} (plain : '?' ∉ path.toList) (clean : '?' ∉ other.toList)
    (same : pathAndQuery path query = pathAndQuery other rest) : path = other ∧ query = rest := by
  have lists : (pathAndQuery path query).toList = (pathAndQuery other rest).toList := congrArg String.toList same
  rw [pathAndQuery_toList, pathAndQuery_toList] at lists
  split at lists
  · next none =>
      split at lists
      · next nothing =>
          rw [List.append_nil, List.append_nil] at lists
          exact ⟨String.toList_inj.mp lists, none.trans nothing.symm⟩
      · rw [List.append_nil] at lists
        exact absurd (lists ▸ List.mem_append_right _ List.mem_cons_self) plain
  · split at lists
    · rw [List.append_nil] at lists
      exact absurd (lists ▸ List.mem_append_right _ List.mem_cons_self) clean
    · obtain ⟨paths, queries⟩ := append_cons_injective plain clean lists
      exact ⟨String.toList_inj.mp paths, String.toList_inj.mp queries⟩

theorem lines_toList (fields : List String) :
    ("\n".intercalate fields).toList = ['\n'].intercalate (fields.map String.toList) := String.toList_intercalate

theorem lines_injective {fields others : List String} (nonempty : fields ≠ []) (more : others ≠ [])
    (plain : ∀ field ∈ fields, Newlineless field) (clean : ∀ field ∈ others, Newlineless field)
    (same : "\n".intercalate fields = "\n".intercalate others) : fields = others := by
  have lists : ("\n".intercalate fields).toList = ("\n".intercalate others).toList := congrArg String.toList same
  rw [lines_toList, lines_toList] at lists
  have parts := intercalate_injective (by simpa using nonempty) (by simpa using more)
    (fun part member => by
      obtain ⟨field, inside, rfl⟩ := List.mem_map.mp member
      exact plain field inside)
    (fun part member => by
      obtain ⟨field, inside, rfl⟩ := List.mem_map.mp member
      exact clean field inside) lists
  exact (List.map_injective_iff.mpr fun _ _ => String.toList_inj.mp) parts

/-! ## Requests -/

/-- What the functions are documented to do: a split path ends before the query and has no newline, and a change of case
makes no newline. -/
structure UrlFunctions.Documented (urls : UrlFunctions) : Prop where
  question : ∀ target, '?' ∉ (urls.urlsplit target).path.toList
  newline : ∀ target, Newlineless (urls.urlsplit target).path
  upper : ∀ text, Newlineless text → Newlineless (urls.upper text)
  lower : ∀ text, Newlineless text → Newlineless (urls.lower text)

/-- The fields that a client could break a line with. -/
structure RequestParts.Plain (parts : RequestParts) : Prop where
  method : Newlineless parts.method
  timestamp : Newlineless parts.timestamp
  nonce : Newlineless parts.nonce
  contentSha256 : Newlineless parts.contentSha256

section Requests
variable {urls : UrlFunctions}

theorem UrlFunctions.Documented.path_plain (documented : urls.Documented) (target : String) :
    '?' ∉ (urls.path target).toList ∧ Newlineless (urls.path target) := by
  unfold UrlFunctions.path
  dsimp only
  split
  · exact ⟨by decide, by decide⟩
  · exact ⟨documented.question target, documented.newline target⟩

theorem canonicalPathAndQuery_eq_iff (documented : urls.Documented) {target other : String} :
    urls.canonicalPathAndQuery target = urls.canonicalPathAndQuery other ↔
      urls.path target = urls.path other ∧ (urls.pairs target).Perm (urls.pairs other) := by
  unfold UrlFunctions.canonicalPathAndQuery
  constructor
  · intro same
    obtain ⟨paths, queries⟩ := pathAndQuery_injective (documented.path_plain target).1 (documented.path_plain other).1 same
    exact ⟨paths, encodedPairs_eq_iff.mp (queryText_injective queries)⟩
  · rintro ⟨paths, pairs⟩
    rw [paths, queryText, queryText, encodedPairs_eq_iff.mpr pairs]

theorem canonicalPathAndQuery_plain (documented : urls.Documented) (target : String) :
    Newlineless (urls.canonicalPathAndQuery target) := by
  unfold UrlFunctions.canonicalPathAndQuery Newlineless
  rw [pathAndQuery_toList, List.mem_append]
  rintro (inside | inside)
  · exact (documented.path_plain target).2 inside
  · split at inside
    · cases inside
    · rcases List.mem_cons.mp inside with mark | inside
      · exact absurd mark (by decide)
      · exact queryText_plain _ rfl (by decide) (by decide) inside

/-- A signed text says which request it is for. -/
theorem canonicalString_eq_iff (documented : urls.Documented) {first second : RequestParts} (plain : first.Plain)
    (clean : second.Plain) : urls.canonicalString first = urls.canonicalString second ↔
      urls.upper first.method = urls.upper second.method ∧ urls.path first.target = urls.path second.target ∧
      (urls.pairs first.target).Perm (urls.pairs second.target) ∧ first.timestamp = second.timestamp ∧
      first.nonce = second.nonce ∧ first.contentSha256 = second.contentSha256 := by
  have fields {parts : RequestParts} (plain : parts.Plain) : ∀ field ∈ [canonicalHeading, urls.upper parts.method,
      urls.canonicalPathAndQuery parts.target, parts.timestamp, parts.nonce, parts.contentSha256],
      Newlineless field := by
    have heading : Newlineless canonicalHeading := by decide
    simp only [List.forall_mem_cons]
    exact ⟨heading, documented.upper _ plain.method, canonicalPathAndQuery_plain documented _, plain.timestamp,
      plain.nonce, plain.contentSha256, fun field none => absurd none List.not_mem_nil⟩
  constructor
  · intro same
    have lines := lines_injective (List.cons_ne_nil _ _) (List.cons_ne_nil _ _) (fields plain) (fields clean) same
    simp only [List.cons.injEq, true_and, and_true] at lines
    obtain ⟨method, target, timestamp, nonce, digest⟩ := lines
    obtain ⟨path, pairs⟩ := (canonicalPathAndQuery_eq_iff documented).mp target
    exact ⟨method, path, pairs, timestamp, nonce, digest⟩
  · rintro ⟨method, path, pairs, timestamp, nonce, digest⟩
    rw [UrlFunctions.canonicalString, UrlFunctions.canonicalString, method,
      (canonicalPathAndQuery_eq_iff documented).mpr ⟨path, pairs⟩, timestamp, nonce, digest]

end Requests

/-! ## Requests of headless agents -/

theorem formatUuid_plain (value : Nat) : Newlineless (formatUuid value) := by
  have digit (place : Nat) : hexDigits.getD place '0' ≠ '\n' := by
    rw [List.getD_eq_getElem?_getD]
    cases found : hexDigits[place]? with
    | none => decide
    | some c =>
        have absent : '\n' ∉ hexDigits := by decide
        exact fun same => absent (same ▸ List.mem_of_getElem? found)
  unfold formatUuid Newlineless
  dsimp only
  rw [String.toList_intercalate]
  refine not_mem_intercalate (by decide) fun part member => ?_
  simp only [List.map_cons, List.map_nil, String.toList_ofList, List.mem_cons, List.not_mem_nil, or_false] at member
  have inside : '\n' ∉ (List.range 32).reverse.map fun place => hexDigits.getD (value / 16 ^ place % 16) '0' := by
    intro found
    obtain ⟨place, _, same⟩ := List.mem_map.mp found
    exact digit _ same
  rcases member with rfl | rfl | rfl | rfl | rfl <;>
    exact fun found => inside (List.mem_of_mem_drop (List.mem_of_mem_take found))

theorem canonicalUuid_plain {text identity : String} (read : canonicalUuid text = some identity) : Newlineless identity := by
  unfold canonicalUuid at read
  dsimp only at read
  split at read
  · obtain ⟨value, _, rfl⟩ := Option.map_eq_some_iff.mp read
    exact formatUuid_plain value
  · cases read

theorem repr_plain (value : Nat) : Newlineless (Nat.repr value) := by
  intro member
  rw [Nat.toList_repr] at member
  exact absurd (Nat.isDigit_of_mem_toDigits (by decide) (by decide) member) (by decide)

theorem counter_plain (counter : Int) : Newlineless (toString counter) := by
  cases counter with
  | ofNat value => exact repr_plain value
  | negSucc value =>
      change '\n' ∉ ("-" ++ Nat.repr (value + 1)).toList
      rw [String.toList_append, List.mem_append]
      rintro (sign | digit)
      · exact absurd sign (by decide)
      · exact repr_plain _ digit

theorem natRepr_injective {first second : Nat} (same : Nat.repr first = Nat.repr second) : first = second := by
  have digits : Nat.toDigits 10 first = Nat.toDigits 10 second := by rw [← Nat.toList_repr, same, Nat.toList_repr]
  rw [← @Nat.ofDigitChars_ten_toDigits first, digits, Nat.ofDigitChars_ten_toDigits]

theorem counter_injective {first second : Int} (same : toString first = toString second) : first = second := by
  have unsigned (value other : Nat) : Nat.repr value ≠ "-" ++ Nat.repr (other + 1) := by
    intro same
    have sign : '-' ∈ Nat.toDigits 10 value := by
      rw [← Nat.toList_repr, same, String.toList_append]
      exact List.mem_append_left _ (by decide)
    exact absurd (Nat.isDigit_of_mem_toDigits (by decide) (by decide) sign) (by decide)
  cases first with
  | ofNat first =>
      cases second with
      | ofNat second => exact congrArg Int.ofNat (natRepr_injective same)
      | negSucc second => exact absurd same (unsigned first second)
  | negSucc first =>
      cases second with
      | ofNat second => exact absurd same.symm (unsigned second first)
      | negSucc second =>
          have lists : ("-" ++ Nat.repr (first + 1)).toList = ("-" ++ Nat.repr (second + 1)).toList :=
            congrArg String.toList same
          rw [String.toList_append, String.toList_append] at lists
          have digits := natRepr_injective (String.toList_inj.mp (List.append_cancel_left lists))
          rw [Nat.succ.inj digits]

section Agents
variable {urls : UrlFunctions}

theorem canonicalAgentRequest_eq_some {parts : AgentParts} {message : ByteArray}
    (signed : urls.canonicalAgentRequest parts = some message) :
    ∃ deviceId bootId, canonicalUuid parts.deviceId = some deviceId ∧ canonicalUuid parts.bootId = some bootId ∧
      ("\n".intercalate (urls.agentLines parts deviceId bootId)).toUTF8 = message := by
  unfold UrlFunctions.canonicalAgentRequest at signed
  cases device : canonicalUuid parts.deviceId with
  | none =>
      rw [device] at signed
      cases signed
  | some deviceId =>
      cases boot : canonicalUuid parts.bootId with
      | none =>
          rw [device, boot] at signed
          cases signed
      | some bootId =>
          rw [device, boot] at signed
          exact ⟨deviceId, bootId, rfl, rfl, Option.some.inj signed⟩

theorem agentLines_plain (documented : urls.Documented) {parts : AgentParts} (plain : parts.Plain)
    {deviceId bootId : String} (readDevice : canonicalUuid parts.deviceId = some deviceId)
    (readBoot : canonicalUuid parts.bootId = some bootId) :
    ∀ field ∈ urls.agentLines parts deviceId bootId, Newlineless field := by
  have heading : Newlineless agentCanonicalHeading := by decide
  have protocol : Newlineless agentProtocol := by decide
  unfold UrlFunctions.agentLines
  simp only [List.forall_mem_cons]
  exact ⟨heading, protocol, canonicalUuid_plain readDevice, canonicalUuid_plain readBoot, counter_plain _,
    documented.lower _ plain.nonce, documented.upper _ plain.method, canonicalPathAndQuery_plain documented _,
    plain.contentSha256, fun field none => absurd none List.not_mem_nil⟩

theorem agentLines_eq_iff (documented : urls.Documented) {first second : AgentParts} {device boot device' boot' : String} :
    urls.agentLines first device boot = urls.agentLines second device' boot' ↔
      device = device' ∧ boot = boot' ∧ first.counter = second.counter ∧
      urls.lower first.nonce = urls.lower second.nonce ∧ urls.upper first.method = urls.upper second.method ∧
      urls.path first.target = urls.path second.target ∧ (urls.pairs first.target).Perm (urls.pairs second.target) ∧
      first.contentSha256 = second.contentSha256 := by
  unfold UrlFunctions.agentLines
  simp only [List.cons.injEq, true_and, and_true]
  rw [canonicalPathAndQuery_eq_iff documented]
  constructor
  · rintro ⟨device, boot, counter, nonce, method, ⟨path, pairs⟩, digest⟩
    exact ⟨device, boot, counter_injective counter, nonce, method, path, pairs, digest⟩
  · rintro ⟨device, boot, counter, nonce, method, path, pairs, digest⟩
    exact ⟨device, boot, congrArg toString counter, nonce, method, ⟨path, pairs⟩, digest⟩

theorem canonicalAgentRequest_eq_iff (documented : urls.Documented) {first second : AgentParts}
    (plain : first.Plain) (clean : second.Plain) {message other : ByteArray}
    (signed : urls.canonicalAgentRequest first = some message) (resigned : urls.canonicalAgentRequest second = some other) :
    message = other ↔ canonicalUuid first.deviceId = canonicalUuid second.deviceId ∧
      canonicalUuid first.bootId = canonicalUuid second.bootId ∧ first.counter = second.counter ∧
      urls.lower first.nonce = urls.lower second.nonce ∧ urls.upper first.method = urls.upper second.method ∧
      urls.path first.target = urls.path second.target ∧ (urls.pairs first.target).Perm (urls.pairs second.target) ∧
      first.contentSha256 = second.contentSha256 := by
  obtain ⟨device, boot, readDevice, readBoot, written⟩ := canonicalAgentRequest_eq_some signed
  obtain ⟨device', boot', readDevice', readBoot', rewritten⟩ := canonicalAgentRequest_eq_some resigned
  rw [readDevice, readDevice', readBoot, readBoot', Option.some.injEq, Option.some.injEq,
    ← agentLines_eq_iff documented, ← written, ← rewritten]
  constructor
  · intro same
    exact lines_injective (List.cons_ne_nil _ _) (List.cons_ne_nil _ _) (agentLines_plain documented plain readDevice readBoot)
      (agentLines_plain documented clean readDevice' readBoot') (String.toByteArray_inj.mp same)
  · intro same
    rw [same]

/-- Nothing but the nonce in lower case is read of a nonce. -/
theorem canonicalAgentRequest_congr {first second : AgentParts} (device : first.deviceId = second.deviceId)
    (boot : first.bootId = second.bootId) (counter : first.counter = second.counter)
    (nonce : urls.lower first.nonce = urls.lower second.nonce) (method : first.method = second.method)
    (target : first.target = second.target) (digest : first.contentSha256 = second.contentSha256) :
    urls.canonicalAgentRequest first = urls.canonicalAgentRequest second := by
  unfold UrlFunctions.canonicalAgentRequest UrlFunctions.agentLines
  rw [device, boot, counter, nonce, method, target, digest]

end Agents

/-- Two signed texts are equal exactly when they are for the same request: an empty path is the root, a nonce of an agent is
read in lower case, and its identities are UUIDs however they are written. -/
theorem canonical_requests_unambiguous (urls : UrlFunctions) (documented : urls.Documented) :
    (∀ first second : RequestParts, first.Plain → second.Plain →
      (urls.canonicalString first = urls.canonicalString second ↔
        urls.upper first.method = urls.upper second.method ∧ urls.path first.target = urls.path second.target ∧
        (urls.pairs first.target).Perm (urls.pairs second.target) ∧ first.timestamp = second.timestamp ∧
        first.nonce = second.nonce ∧ first.contentSha256 = second.contentSha256)) ∧
    ∀ first second : AgentParts, first.Plain → second.Plain → ∀ message other,
      urls.canonicalAgentRequest first = some message → urls.canonicalAgentRequest second = some other →
      (message = other ↔ canonicalUuid first.deviceId = canonicalUuid second.deviceId ∧
        canonicalUuid first.bootId = canonicalUuid second.bootId ∧ first.counter = second.counter ∧
        urls.lower first.nonce = urls.lower second.nonce ∧ urls.upper first.method = urls.upper second.method ∧
        urls.path first.target = urls.path second.target ∧
        (urls.pairs first.target).Perm (urls.pairs second.target) ∧ first.contentSha256 = second.contentSha256) :=
  ⟨fun _ _ plain clean => canonicalString_eq_iff documented plain clean,
    fun _ _ plain clean _ _ signed resigned => canonicalAgentRequest_eq_iff documented plain clean signed resigned⟩

/-! ## Plain targets -/

/-- Targets of a path and a query without fragments and escapes, in ASCII. -/
def plainSplit (target : String) : SplitResult :=
  let kept := target.toList.filter fun c => c ≠ '\t' && c ≠ '\r' && c ≠ '\n'
  { path := String.ofList (kept.takeWhile (· ≠ '?')), query := String.ofList ((kept.dropWhile (· ≠ '?')).drop 1) }

def plainPairs (query : String) : List (String × String) :=
  ((query.toList.splitOn '&').filter (· ≠ [])).map fun pair =>
    (String.ofList (pair.takeWhile (· ≠ '=')), String.ofList ((pair.dropWhile (· ≠ '=')).drop 1))

def asciiUrls : UrlFunctions := ⟨plainSplit, plainPairs, String.toUpper, String.toLower⟩

theorem toUpper_newline {c : Char} (same : c.toUpper = '\n') : c = '\n' := by
  unfold Char.toUpper at same
  split at same
  · next letter =>
      have code := congrArg (fun c : Char => c.val.toNat) same
      have least := UInt32.le_iff_toNat_le.mp letter.1
      have most := UInt32.le_iff_toNat_le.mp letter.2
      simp [UInt32.toNat_add] at code least most
      omega
  · exact same

theorem toLower_newline {c : Char} (same : c.toLower = '\n') : c = '\n' := by
  unfold Char.toLower at same
  split at same
  · next letter =>
      have code := congrArg (fun c : Char => c.val.toNat) same
      have least := UInt32.le_iff_toNat_le.mp letter.1
      have most := UInt32.le_iff_toNat_le.mp letter.2
      simp [UInt32.toNat_add] at code least most
      omega
  · exact same

theorem asciiUrls_documented : asciiUrls.Documented := by
  constructor
  · intro target member
    change '?' ∈ (String.ofList _).toList at member
    rw [String.toList_ofList] at member
    have passed := List.all_takeWhile (p := (· ≠ '?')) (l := target.toList.filter fun c => c ≠ '\t' && c ≠ '\r' && c ≠ '\n')
    simpa using List.all_eq_true.mp passed _ member
  · intro target member
    change '\n' ∈ (String.ofList _).toList at member
    rw [String.toList_ofList] at member
    have kept := List.mem_filter.mp ((List.takeWhile_sublist _).mem member)
    simpa using kept.2
  · intro text plain member
    change '\n' ∈ (String.map Char.toUpper text).toList at member
    rw [String.toList_map] at member
    obtain ⟨c, inside, same⟩ := List.mem_map.mp member
    exact plain (toUpper_newline same ▸ inside)
  · intro text plain member
    change '\n' ∈ (String.map Char.toLower text).toList at member
    rw [String.toList_map] at member
    obtain ⟨c, inside, same⟩ := List.mem_map.mp member
    exact plain (toLower_newline same ▸ inside)

/-- A reading sent by a device. -/
def postedReading (target : String) : RequestParts :=
  { method := "post", target := target, timestamp := "1700000000", nonce := "n1", contentSha256 := "d1" }

def agentReading (nonce : String) : AgentParts :=
  { method := "POST"
    target := "/api/v2/agent/readings"
    nonce := nonce
    contentSha256 := "d1"
    deviceId := "5a0f2c1e-7d34-4b53-9c1f-0d6b1a2c3e4f"
    bootId := "1b0f2c1e-7d34-4b53-9c1f-0d6b1a2c3e4f"
    counter := 7 }

theorem postedReading_plain (target : String) : (postedReading target).Plain := by
  have method : Newlineless "post" := by decide
  have timestamp : Newlineless "1700000000" := by decide
  have nonce : Newlineless "n1" := by decide
  have digest : Newlineless "d1" := by decide
  exact ⟨method, timestamp, nonce, digest⟩

theorem asciiUrls_unambiguous :
    let first := postedReading "/a?x=1&y=2"
    let second := postedReading "/a?y=2&x=1"
    asciiUrls.canonicalString first = asciiUrls.canonicalString second ↔
      asciiUrls.upper first.method = asciiUrls.upper second.method ∧
      asciiUrls.path first.target = asciiUrls.path second.target ∧
      (asciiUrls.pairs first.target).Perm (asciiUrls.pairs second.target) ∧ first.timestamp = second.timestamp ∧
      first.nonce = second.nonce ∧ first.contentSha256 = second.contentSha256 :=
  (canonical_requests_unambiguous asciiUrls asciiUrls_documented).1 (postedReading "/a?x=1&y=2")
    (postedReading "/a?y=2&x=1") (postedReading_plain _) (postedReading_plain _)

/-- An empty path is the root, and the nonce of an agent is read in lower case. -/
theorem empty_path_is_root :
    (asciiUrls.canonicalString (postedReading "?x=1") = asciiUrls.canonicalString (postedReading "/?x=1") ∧
      (asciiUrls.urlsplit "?x=1").path ≠ (asciiUrls.urlsplit "/?x=1").path) ∧
    (asciiUrls.canonicalAgentRequest (agentReading "AB") = asciiUrls.canonicalAgentRequest (agentReading "ab") ∧
      (agentReading "AB").nonce ≠ (agentReading "ab").nonce) := by
  refine ⟨⟨?_, by decide⟩, ?_, by decide⟩
  · exact (canonicalString_eq_iff asciiUrls_documented (postedReading_plain _) (postedReading_plain _)).mpr
      ⟨rfl, by decide, by decide, rfl, rfl, rfl⟩
  · have nonces : asciiUrls.lower "AB" = asciiUrls.lower "ab" := by
      rw [← String.toList_inj]
      change (String.map Char.toLower "AB").toList = (String.map Char.toLower "ab").toList
      rw [String.toList_map, String.toList_map]
      decide
    exact canonicalAgentRequest_congr rfl rfl rfl nonces rfl rfl rfl

end PowerMonitor.Security
