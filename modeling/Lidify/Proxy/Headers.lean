import Lidify.Proxy.TargetUrl
import Mathlib.Data.List.Dedup
import Mathlib.Data.List.Sort
import Mathlib.Data.String.Basic
/-
**The API proxy's request headers: `buildProxyHeaders`.**

`buildProxyHeaders(request)` copies the request's headers (`new Headers(request.headers)`), deletes
`host`, sets `x-forwarded-host` to the request's `host` when that is not empty, always sets
`x-forwarded-proto` to the request URL's scheme, and sets `x-forwarded-for` to `x-real-ip` only
when the request has no non-empty `x-forwarded-for` and a non-empty `x-real-ip`.

`Headers` is the Fetch Standard's: a list of name and value pairs, names matched without regard
to ASCII case. `get` joins the values of a name with `, `; `set` normalizes the value (strips HTTP
whitespace at both ends), gives it to the first header of the name and removes the others;
`delete` removes them all; `new Headers(headers)` appends the pairs the headers' iterator yields,
sorted and combined: one pair per lowercase name, except `set-cookie`, whose values stay apart.

* `get_copy` — the copy keeps every `get`, normalized (`set-cookie` value by value);
* `buildProxyHeaders_spec` — what `get` gives on the headers the backend receives, for every name:
  nothing for `host`; the request's `host` as `x-forwarded-host` when it has one; the scheme as
  `x-forwarded-proto`; `x-real-ip` as `x-forwarded-for` only when the request has no
  `x-forwarded-for`, whose value otherwise passes unchanged; every other header as the request
  sent it.
-/

namespace Lidify.Proxy

open Lidify.Webhook (truthyValue)

/-! ### `Headers` -/

/-- A `Headers` object: its header list. -/
structure Headers where
  list : List (String × String)
  deriving DecidableEq, Repr

/-- The byte-lowercase of a header name. -/
def lowerName (name : String) : String := ⟨name.data.map Char.toLower⟩

/-- The two names are a byte-case-insensitive match. -/
def nameMatches (name other : String) : Bool := lowerName name = lowerName other

/-- The values of the headers named `name`, in order. -/
def Headers.values (headers : Headers) (name : String) : List String :=
  (headers.list.filter fun header => nameMatches header.1 name).map (·.2)

/-- Values joined as `get` returns them: `null` for none. -/
def joinValues : List String → Option String
  | [] => none
  | values => some (", ".intercalate values)

/-- `get(name)`. -/
def Headers.get (headers : Headers) (name : String) : Option String :=
  joinValues (headers.values name)

/-- HTTP whitespace: tab, line feed, carriage return and space. -/
def isHttpWhitespace (c : Char) : Bool := c.toNat ∈ [0x09, 0x0A, 0x0D, 0x20]

/-- A header value normalized: HTTP whitespace removed from both ends. -/
def normalize (value : String) : String :=
  ⟨((value.data.dropWhile isHttpWhitespace).reverse.dropWhile isHttpWhitespace).reverse⟩

/-- `delete(name)`. -/
def Headers.delete (headers : Headers) (name : String) : Headers :=
  ⟨headers.list.filter fun header => !nameMatches header.1 name⟩

/-- The first header named `name` given `value`, the later ones removed. -/
def setFirst (name value : String) : List (String × String) → List (String × String)
  | [] => []
  | header :: rest =>
    if nameMatches header.1 name then (header.1, value) :: rest.filter fun later => !nameMatches later.1 name
    else header :: setFirst name value rest

/-- `set(name, value)`: with a header of the name, the first takes the normalized value and the
others go; with none, the pair is appended. -/
def Headers.set (headers : Headers) (name value : String) : Headers :=
  if headers.list.any fun header => nameMatches header.1 name then
    ⟨setFirst name (normalize value) headers.list⟩
  else ⟨headers.list ++ [(name, normalize value)]⟩

/-- The sorted-lowercase set of the header names. -/
def Headers.names (headers : Headers) : List String :=
  ((headers.list.map fun header => lowerName header.1).dedup).insertionSort (· ≤ ·)

/-- The pairs of one name: its value from `get`, or `set-cookie` once per value. -/
def Headers.combined (headers : Headers) (name : String) : List (String × String) :=
  if name = "set-cookie" then (headers.values name).map (name, ·)
  else [(name, (headers.get name).getD "")]

/-- The pairs the iterator yields: sorted and combined. -/
def Headers.sortAndCombine (headers : Headers) : List (String × String) :=
  headers.names.flatMap headers.combined

/-- `new Headers(headers)`: each pair appended, its value normalized. The names are already
distinct and lowercase, so `append` adds each pair as it is. -/
def Headers.copy (headers : Headers) : Headers :=
  ⟨headers.sortAndCombine.map fun header => (header.1, normalize header.2)⟩

theorem Char.toLower_toLower (c : Char) : c.toLower.toLower = c.toLower := by
  unfold Char.toLower
  by_cases upper : c.toNat ≥ 65 ∧ c.toNat ≤ 90
  · have valid : (c.toNat + 32).isValidChar := Or.inl (by omega)
    have lowered : (Char.ofNat (c.toNat + 32)).toNat = c.toNat + 32 := by
      rw [Char.ofNat, dif_pos valid]
      rfl
    simp only [upper, and_self, ↓reduceIte, lowered]
    rw [if_neg (by omega)]
  · simp only [upper, ↓reduceIte]

@[simp] theorem lowerName_lowerName (name : String) : lowerName (lowerName name) = lowerName name := by
  simp only [lowerName, List.map_map]
  congr 1
  exact List.map_congr_left fun c _ => Char.toLower_toLower c

theorem nameMatches_iff {name other : String} :
    nameMatches name other = true ↔ lowerName name = lowerName other := by
  simp [nameMatches]

theorem nameMatches_comm (name other : String) : nameMatches name other = nameMatches other name := by
  simp only [nameMatches, eq_comm]

theorem nameMatches_trans {a b c : String} (first : nameMatches a b = true)
    (second : nameMatches b c = true) : nameMatches a c = true :=
  nameMatches_iff.mpr ((nameMatches_iff.mp first).trans (nameMatches_iff.mp second))

/-- Names that match `name` match another name exactly when `name` does. -/
theorem nameMatches_congr {a b : String} (same : nameMatches a b = true) (c : String) :
    nameMatches c a = nameMatches c b := by
  simp only [nameMatches, nameMatches_iff.mp same]

@[simp] theorem joinValues_singleton (value : String) : joinValues [value] = some value := rfl

theorem get_eq (headers : Headers) (name : String) :
    headers.get name = joinValues (headers.values name) := rfl

theorem values_delete (headers : Headers) (name other : String) :
    (headers.delete name).values other =
      if nameMatches other name then [] else headers.values other := by
  unfold Headers.values Headers.delete
  rw [List.filter_filter]
  split
  · rename_i same
    rw [List.filter_eq_nil_iff.mpr fun header _ => by
      simp [nameMatches_congr same header.1]]
    rfl
  · rename_i different
    congr 1
    exact List.filter_congr fun header _ => by
      cases matched : nameMatches header.1 other
      · rfl
      · have : nameMatches header.1 name = false := by
          cases named : nameMatches header.1 name
          · rfl
          · exact absurd (nameMatches_trans ((nameMatches_comm _ _).trans matched) named)
              (by simpa using different)
        simp [this]

/-- `delete` empties a name and keeps the others. -/
theorem get_delete (headers : Headers) (name other : String) :
    (headers.delete name).get other = if nameMatches other name then none else headers.get other := by
  rw [get_eq, values_delete]
  split <;> rfl

theorem values_setFirst (name value other : String) (list : List (String × String)) :
    ((setFirst name value list).filter fun header => nameMatches header.1 other).map (·.2) =
      if nameMatches other name then
        (if list.any fun header => nameMatches header.1 name then [value] else [])
      else (list.filter fun header => nameMatches header.1 other).map (·.2) := by
  induction list with
  | nil => split <;> rfl
  | cons header rest ih =>
    by_cases named : nameMatches header.1 name = true
    · have later : ((rest.filter fun later => !nameMatches later.1 name).filter
          fun header => nameMatches header.1 other).map (·.2) =
          if nameMatches other name then [] else (rest.filter fun header => nameMatches header.1 other).map (·.2) := by
        have := values_delete ⟨rest⟩ name other
        simpa [Headers.values, Headers.delete] using this
      have key : nameMatches header.1 other = nameMatches other name :=
        (nameMatches_comm _ _).trans (nameMatches_congr named other)
      simp only [setFirst, named, ↓reduceIte, List.filter_cons, List.any_cons, Bool.true_or, key]
      by_cases same : nameMatches other name = true
      · simp only [same, ↓reduceIte, List.map_cons, later]
      · simp only [same, later, Bool.false_eq_true, ↓reduceIte]
    · simp only [setFirst, named, Bool.false_eq_true, ↓reduceIte, List.filter_cons, List.any_cons,
        Bool.false_or]
      split
      · rename_i matched
        have : nameMatches other name = false := by
          cases same : nameMatches other name
          · rfl
          · exact absurd (nameMatches_trans matched same) named
        simp only [List.map_cons, ih, this, Bool.false_eq_true, ↓reduceIte]
      · exact ih

/-- `set` gives a name the normalized value and keeps the others. -/
theorem get_set (headers : Headers) (name value other : String) :
    (headers.set name value).get other =
      if nameMatches other name then some (normalize value) else headers.get other := by
  unfold Headers.set
  split
  · rename_i present
    rw [get_eq, Headers.values, values_setFirst, present]
    split <;> rfl
  · rename_i absent
    rw [get_eq, Headers.values, List.filter_append, List.map_append]
    split
    · rename_i same
      have none : (headers.list.filter fun header => nameMatches header.1 other) = [] :=
        List.filter_eq_nil_iff.mpr fun header mem matched => absent (List.any_eq_true.mpr
          ⟨header, mem, nameMatches_trans matched same⟩)
      simp [none, (nameMatches_comm _ _).trans same]
    · rename_i different
      simp [(nameMatches_comm _ _).trans (Bool.not_eq_true _ |>.mp different), get_eq, Headers.values]

theorem mem_names {headers : Headers} {name : String} :
    name ∈ headers.names ↔ ∃ header ∈ headers.list, lowerName header.1 = name := by
  rw [Headers.names, List.mem_insertionSort, List.mem_dedup, List.mem_map]

theorem names_nodup (headers : Headers) : headers.names.Nodup :=
  (List.perm_insertionSort _ _).nodup_iff.mpr (List.nodup_dedup _)

theorem values_lowerName (headers : Headers) (name : String) :
    headers.values (lowerName name) = headers.values name := by
  simp [Headers.values, nameMatches]

theorem values_eq_nil_iff {headers : Headers} {name : String} :
    headers.values name = [] ↔ lowerName name ∉ headers.names := by
  rw [Headers.values, List.map_eq_nil_iff, List.filter_eq_nil_iff, mem_names]
  simp only [nameMatches, decide_eq_true_eq, not_exists, not_and]

/-- The copied pairs matching a name are the pairs of its lowercase, if some header has it. -/
theorem filter_sortAndCombine (headers : Headers) (other : String) :
    headers.sortAndCombine.filter (fun header => nameMatches header.1 other) =
      if lowerName other ∈ headers.names then headers.combined (lowerName other) else [] := by
  have own : ∀ name ∈ headers.names, (headers.combined name).filter
      (fun header => nameMatches header.1 other) =
      if name = lowerName other then headers.combined name else [] := by
    intro name mem
    obtain ⟨header, _, rfl⟩ := mem_names.mp mem
    have named : ∀ pair ∈ headers.combined (lowerName header.1), pair.1 = lowerName header.1 := by
      intro pair listed
      unfold Headers.combined at listed
      split at listed
      · obtain ⟨_, _, rfl⟩ := List.mem_map.mp listed
        rfl
      · rw [List.mem_singleton.mp listed]
    split
    · exact List.filter_eq_self.mpr fun pair listed => by
        simp [nameMatches, named pair listed, *]
    · exact List.filter_eq_nil_iff.mpr fun pair listed => by
        simpa [nameMatches, named pair listed] using ‹¬_›
  have select : ∀ names : List String, (∀ name ∈ names, name ∈ headers.names) →
      (names.flatMap fun name => (headers.combined name).filter
        (fun header => nameMatches header.1 other)) =
      (names.filter (· = lowerName other)).flatMap headers.combined := by
    intro names within
    induction names with
    | nil => rfl
    | cons name rest ih =>
      rw [List.flatMap_cons, own name (within name (.head _)),
        ih fun later mem => within later (.tail _ mem), List.filter_cons]
      split <;> simp_all
  rw [Headers.sortAndCombine, List.filter_flatMap, select _ fun _ mem => mem, List.filter_eq]
  split
  · rw [List.count_eq_one_of_mem (names_nodup headers) ‹_›]
    simp
  · rw [List.count_eq_zero_of_not_mem ‹_›]
    rfl

/-- **The copy keeps every `get`**, normalized: a name's values combined and then stripped, and
`set-cookie`'s value by value. -/
theorem get_copy (headers : Headers) (other : String) :
    headers.copy.get other =
      if lowerName other = "set-cookie" then joinValues ((headers.values other).map normalize)
      else (headers.get other).map normalize := by
  have filtered : headers.copy.values other =
      ((headers.sortAndCombine.filter fun header => nameMatches header.1 other)).map
        fun header => normalize header.2 := by
    simp only [Headers.copy, Headers.values, List.filter_map, List.map_map]
    rfl
  rw [get_eq, filtered, filter_sortAndCombine]
  by_cases present : lowerName other ∈ headers.names
  · rw [if_pos present]
    unfold Headers.combined
    by_cases cookie : lowerName other = "set-cookie"
    · rw [if_pos cookie, if_pos cookie, values_lowerName, List.map_map]
      rfl
    · obtain ⟨value, rest, listed⟩ : ∃ value rest, headers.values other = value :: rest := by
        cases values : headers.values other with
        | nil => exact absurd present (values_eq_nil_iff.mp values)
        | cons value rest => exact ⟨value, rest, rfl⟩
      have joined : joinValues (value :: rest) = some (", ".intercalate (value :: rest)) := rfl
      simp [cookie, get_eq, values_lowerName, listed, joined]
  · have none := values_eq_nil_iff.mpr present
    simp [present, get_eq, none, joinValues]

/-! ### `buildProxyHeaders` -/

/-- What `buildProxyHeaders` reads of the request: `headers` and `nextUrl.protocol`. -/
structure ProxyRequest where
  headers : Headers
  protocol : String

/-- `protocol.replace(":", "")`: the first `:` removed. -/
def removeFirstColon (text : String) : String :=
  match text.splitOn ":" with
  | [] => text
  | first :: rest => first ++ ":".intercalate rest

/-- `buildProxyHeaders(request)`. -/
def buildProxyHeaders (request : ProxyRequest) : Headers :=
  let headers := request.headers.copy.delete "host"
  let headers :=
    match truthyValue (request.headers.get "host") with
    | some host => headers.set "x-forwarded-host" host
    | none => headers
  let headers := headers.set "x-forwarded-proto" (removeFirstColon request.protocol)
  match truthyValue (request.headers.get "x-forwarded-for"),
    truthyValue (request.headers.get "x-real-ip") with
  | none, some realIp => headers.set "x-forwarded-for" realIp
  | _, _ => headers

/-- **What the backend receives.** For every header name, `get` on the headers `proxy` sends
gives: nothing for `host`, whatever its case; for `x-forwarded-host`, the request's `host` when it
is not empty, and otherwise what the request sent under that name; for `x-forwarded-proto`, the
URL's scheme; for `x-forwarded-for`, `x-real-ip` when the request sent no non-empty
`x-forwarded-for` and a non-empty `x-real-ip`, and otherwise what the request sent, so a client's
own `x-forwarded-for` reaches the backend unchanged; for every other name, what the request sent.
Values come normalized, `set-cookie` value by value. -/
theorem buildProxyHeaders_spec (request : ProxyRequest) (name : String) :
    (buildProxyHeaders request).get name =
      if nameMatches name "host" then none
      else if nameMatches name "x-forwarded-host" then
        match truthyValue (request.headers.get "host") with
        | some host => some (normalize host)
        | none => (request.headers.get name).map normalize
      else if nameMatches name "x-forwarded-proto" then
        some (normalize (removeFirstColon request.protocol))
      else if nameMatches name "x-forwarded-for" then
        match truthyValue (request.headers.get "x-forwarded-for"),
          truthyValue (request.headers.get "x-real-ip") with
        | none, some realIp => some (normalize realIp)
        | _, _ => (request.headers.get name).map normalize
      else if nameMatches name "set-cookie" then
        joinValues ((request.headers.values name).map normalize)
      else (request.headers.get name).map normalize := by
  have literals : lowerName "host" = "host" ∧ lowerName "x-forwarded-host" = "x-forwarded-host" ∧
      lowerName "x-forwarded-proto" = "x-forwarded-proto" ∧
      lowerName "x-forwarded-for" = "x-forwarded-for" ∧ lowerName "set-cookie" = "set-cookie" := by
    decide
  obtain ⟨host, forwardedHost, forwardedProto, forwardedFor, cookie⟩ := literals
  have copied : (request.headers.copy.delete "host").get name =
      if lowerName name = "host" then none
      else if lowerName name = "set-cookie" then
        joinValues ((request.headers.values name).map normalize)
      else (request.headers.get name).map normalize := by
    rw [get_delete, get_copy]
    simp only [nameMatches, host, decide_eq_true_eq]
  unfold buildProxyHeaders
  cases truthyValue (request.headers.get "host") <;>
    cases truthyValue (request.headers.get "x-forwarded-for") <;>
    cases truthyValue (request.headers.get "x-real-ip") <;>
    simp only [get_set, copied, nameMatches, decide_eq_true_eq, host, forwardedHost, forwardedProto,
      forwardedFor, cookie] <;>
    generalize lowerName name = key <;>
    rcases eq_or_ne key "host" with rfl | notHost <;> try simp
  all_goals
    rcases eq_or_ne key "x-forwarded-host" with rfl | notForwardedHost <;> try simp [*]
  all_goals
    rcases eq_or_ne key "x-forwarded-proto" with rfl | notProto <;> try simp [*]
  all_goals
    rcases eq_or_ne key "x-forwarded-for" with rfl | notFor <;> simp [*]

end Lidify.Proxy
