import Mathlib.Data.List.DropRight
import Outbox.Http.Url
import Outbox.Proofs.Http.Host

/-!
# Where an address leads

What an address tells before its path: its scheme, who the user is, the host and the port. All but
the scheme is read from the authority, which begins after the slashes of the scheme and ends before
the next one (`destination_ofText`). So an address can be given a longer path and leads to the same
server still, unless nothing but slashes stands behind its scheme: then the path is taken for the
authority (`authority_shortened`, `ofRest_bared`).
-/

namespace Outbox.Http

/-- Where an address leads, and as whom. -/
structure Destination where
  secure : Bool
  user : String
  password : Option String
  host : String
  /-- The port, unless it is the usual one of the scheme. -/
  port : Option Nat
  deriving DecidableEq

namespace Url

/-- Where an address leads. -/
def destination (u : Url) : Destination := ⟨u.secure, u.user, u.password, u.host, u.port⟩

/-- A character before which the authority ends. -/
def isEnd (c : Char) : Bool := isSlash c || c == '?' || c == '#'

/-- What stands between the slashes of the scheme and the path. -/
def authority (s : List Char) : List Char := (s.dropWhile isSlash).takeWhile fun c => ! isEnd c

/-- The server that an authority spells. -/
def destinationOf? (secure : Bool) (authority : List Char) : Option Destination := do
  let (credentials, server) := splitUser authority
  let (name, port) := splitPort server
  let host ← Host.ofText? name
  let port ← port? (if secure then 443 else 80) port
  let encoded (part : List Char) : String := String.ofList (Percent.encode Percent.inUser part)
  let credentials := credentials.getD []
  let user := credentials.takeWhile (· != ':')
  let password := credentials.dropWhile (· != ':')
  return {
    secure
    user := encoded user
    password := if password.length ≤ 1 then none else some (encoded (password.drop 1))
    host
    port }

/-- What stands behind the authority. -/
def behindAuthority (s : List Char) : List Char :=
  (s.dropWhile isSlash).dropWhile fun c => ! isEnd c

/-- The address of a server with a path, a query and a fragment. -/
def ofDestination (destination : Destination) (s : List Char) : Url :=
  let path := s.takeWhile fun c => c != '?' && c != '#'
  let s := s.dropWhile fun c => c != '?' && c != '#'
  let (query, s) := match s with
    | '?' :: s => (some (s.takeWhile (· != '#')), s.dropWhile (· != '#'))
    | s => (none, s)
  let fragment := match s with
    | '#' :: s => some s
    | _ => none
  let encoded (keeps : Char → Bool) (part : List Char) : String :=
    String.ofList (Percent.encode keeps part)
  { secure := destination.secure
    user := destination.user
    password := destination.password
    host := destination.host
    port := destination.port
    path := normalPath path
    query := query.map (encoded Percent.inQuery)
    fragment := fragment.map (encoded Percent.inFragment) }

variable {secure : Bool} {c : Char} {s v : List Char}

/-- An address has a server, and something behind it. -/
theorem ofRest_eq (secure : Bool) (s : List Char) :
    ofRest? secure s = (destinationOf? secure (authority s)).map fun place =>
      ofDestination place (behindAuthority s) := by
  have front : (s.dropWhile isSlash).takeWhile (fun c => ! (isSlash c || c == '?' || c == '#')) =
      authority s := rfl
  simp only [ofRest?, destinationOf?, front]
  cases Host.ofText? (splitPort (splitUser (authority s)).2).1 with
  | none => rfl
  | some host =>
    cases port? (if secure = true then 443 else 80) (splitPort (splitUser (authority s)).2).2 with
    | none => rfl
    | some port => rfl

/-- Nothing but the authority tells the server. -/
theorem destination_ofRest (secure : Bool) (s : List Char) :
    (ofRest? secure s).map destination = destinationOf? secure (authority s) := by
  rw [ofRest_eq, Option.map_map]
  exact Option.map_id'

/-- Slashes at the beginning do not matter. -/
theorem ofRest_congr {t : List Char} (secure : Bool)
    (h : s.dropWhile isSlash = t.dropWhile isSlash) : ofRest? secure s = ofRest? secure t := by
  unfold ofRest?
  rw [h]

/-! ### Authorities with a blank at the end -/

/-- A character that is cut off at both ends of an address. -/
def isEdge (c : Char) : Bool := decide (c.toNat ≤ 0x20)

/-- Nothing in the text could be cut off. -/
def isVisible (s : List Char) : Bool := s.all fun c => ! isEdge c

theorem isEdge_of_isVisible (h : isVisible s = true) : ∀ c ∈ s, isEdge c = false := by
  simpa [isVisible] using h

theorem isEdge_ne {d : Char} (h : isEdge c = true) (hd : 0x20 < d.toNat) : c ≠ d := by
  have low : c.toNat ≤ 0x20 := of_decide_eq_true h
  rintro rfl
  omega

theorem isEnd_edge (h : isEdge c = true) : isEnd c = false := by
  simp [isEnd, isSlash, isEdge_ne h (d := '/') (by decide), isEdge_ne h (d := '\\') (by decide),
    isEdge_ne h (d := '?') (by decide), isEdge_ne h (d := '#') (by decide)]

theorem isSlash_edge (h : isEdge c = true) : isSlash c = false := by
  have ends := isEnd_edge h
  unfold isEnd at ends
  cases slash : isSlash c with
  | false => rfl
  | true => simp [slash] at ends

/-- What stands behind the user is at the end of the authority. -/
theorem splitUser_concat (h : c ≠ '@') (s : List Char) :
    ∃ t, (splitUser (s ++ [c])).2 = t ++ [c] := by
  have tail : (s ++ [c]).reverse.takeWhile (· != '@') =
      c :: s.reverse.takeWhile (· != '@') := by
    rw [List.reverse_concat, List.takeWhile_cons_of_pos (by simpa using h)]
  unfold splitUser
  simp only [tail, List.reverse_cons]
  split
  · exact ⟨_, rfl⟩
  · exact ⟨s, rfl⟩

/-- The port is at the end of the authority, or else the host. -/
theorem splitPort_concat (colon : c ≠ ':') (bracket : c ≠ ']') (s : List Char) :
    (∃ name t, splitPort (s ++ [c]) = (name, t ++ [c])) ∨
      splitPort (s ++ [c]) = (s ++ [c], []) := by
  have tail : (s ++ [c]).reverse.takeWhile (fun c => c != ':' && c != ']') =
      c :: s.reverse.takeWhile (fun c => c != ':' && c != ']') := by
    rw [List.reverse_concat, List.takeWhile_cons_of_pos (by simp [colon, bracket])]
  unfold splitPort
  simp only [tail, List.reverse_cons]
  split
  · exact .inl ⟨_, _, rfl⟩
  · exact .inr rfl

/-- No server is named with a blank or a control character at the end. -/
theorem destinationOf?_concat (h : isEdge c = true) (secure : Bool) (s : List Char) :
    destinationOf? secure (s ++ [c]) = none := by
  have low : c.toNat ≤ 0x20 := of_decide_eq_true h
  obtain ⟨t, ht⟩ := splitUser_concat (isEdge_ne h (d := '@') (by decide)) s
  have colon := isEdge_ne h (d := ':') (by decide)
  have bracket := isEdge_ne h (d := ']') (by decide)
  simp only [destinationOf?, ht]
  rcases splitPort_concat colon bracket t with ⟨name, port, hp⟩ | hp
  · -- the character is no digit of a port
    have refused : port? (if secure = true then 443 else 80) (port ++ [c]) = none := by
      have letter := Host.isDigit_edge low
      have some : (port ++ [c]).all Char.isDigit = false := by simp [letter]
      rw [port?, some]
      rfl
    simp only [hp, refused]
    cases Host.ofText? name with
    | none => rfl
    | some host => rfl
  · rw [hp, Host.ofText?_concat low]
    rfl

/-! ### Longer addresses -/

/-- What is behind a slash has no part in the authority if more than slashes stands before it. -/
theorem authority_longer {a : List Char} (h : ∃ x ∈ a, isSlash x = false) (b : List Char) :
    authority (a ++ '/' :: b) = authority a := by
  have some : (a.dropWhile isSlash).isEmpty = false := by
    obtain ⟨x, hx, other⟩ := h
    refine Bool.eq_false_iff.mpr fun none => ?_
    have slash := List.dropWhile_eq_nil_iff.mp (List.isEmpty_iff.mp none) x hx
    rw [other] at slash
    cases slash
  have stop : ('/' :: b).takeWhile (fun c => ! isEnd c) = [] := rfl
  unfold authority
  rw [List.dropWhile_append, some, if_neg Bool.false_ne_true, List.takeWhile_append, stop,
    List.append_nil]
  split
  · next whole => exact (List.takeWhile_prefix _).eq_of_length whole |>.symm
  · rfl

/-- Behind slashes alone stands the authority. -/
theorem authority_bare {a : List Char} (h : ∀ x ∈ a, isSlash x = true) (b : List Char) :
    authority (a ++ b) = authority b := by
  unfold authority
  rw [List.dropWhile_append_of_pos h]

/-- Blanks and control characters at the end do not matter for the authority, or they are at the end
of it. -/
theorem authority_edges {e : List Char} (he : ∀ x ∈ e, isEdge x = true) (a : List Char) :
    authority (a ++ e) = authority a ∨ ∃ t, authority (a ++ e) = t ++ e := by
  have inner : e.takeWhile (fun c => ! isEnd c) = e :=
    List.takeWhile_eq_self_iff.mpr fun x hx => by simp [isEnd_edge (he x hx)]
  have begins : e.dropWhile isSlash = e := by
    cases e with
    | nil => rfl
    | cons x e =>
      exact List.dropWhile_cons_of_neg (by simp [isSlash_edge (he x List.mem_cons_self)])
  unfold authority
  rw [List.dropWhile_append]
  split
  · exact .inr ⟨[], by rw [begins, inner, List.nil_append]⟩
  · rw [List.takeWhile_append, inner]
    split
    · exact .inr ⟨_, rfl⟩
    · exact .inl rfl

/-! ### Addresses as texts -/

/-- A character that an address is read without. -/
def isSkipped (c : Char) : Bool := c == '\t' || c == '\n' || c == '\r'

/-- What is read of the end of an address. -/
def readEnd (v : List Char) : List Char := (v.rdropWhile isEdge).filter fun c => ! isSkipped c

/-- The scheme that an address begins with. -/
def scheme (secure : Bool) : List Char :=
  if secure then ['h', 't', 't', 'p', 's'] else ['h', 't', 't', 'p']

theorem cleaned_eq (s : String) : cleaned s = readEnd (s.toList.dropWhile isEdge) := rfl

/-- Only what stands behind the last other character is cut off. -/
theorem rdropWhile_cons {p : Char → Bool} (h : p c = false) (a v : List Char) :
    (a ++ c :: v).rdropWhile p = a ++ c :: v.rdropWhile p := by
  induction v using List.reverseRecOn with
  | nil => rw [List.rdropWhile_concat_neg _ _ _ (by simp [h]), List.rdropWhile_nil]
  | append_singleton v d ih =>
    rw [← List.cons_append, ← List.append_assoc]
    by_cases cut : p d = true
    · rw [List.rdropWhile_concat_pos _ _ _ cut, List.rdropWhile_concat_pos _ _ _ cut, ih]
    · rw [List.rdropWhile_concat_neg _ _ _ cut, List.rdropWhile_concat_neg _ _ _ cut,
        List.append_assoc, List.cons_append]

theorem cleaned_scheme {s : String} (h : s.toList = scheme secure ++ ':' :: v) :
    cleaned s = scheme secure ++ ':' :: readEnd v := by
  have visible : (scheme secure ++ ':' :: v).dropWhile isEdge = scheme secure ++ ':' :: v := by
    cases secure <;> rfl
  rw [cleaned_eq, h, visible, readEnd, rdropWhile_cons (by decide), List.filter_append]
  cases secure <;> rfl

/-- What an address says is read from what stands behind its scheme. -/
theorem ofText_scheme {s : String} (h : s.toList = scheme secure ++ ':' :: v) :
    ofText? s = ofRest? secure (readEnd v) := by
  rw [ofText?, cleaned_scheme h]
  cases secure <;> rfl

/-- The server of an address is read from its authority. -/
theorem destination_ofText {s : String} (h : s.toList = scheme secure ++ ':' :: v) :
    (ofText? s).map destination = destinationOf? secure (authority (readEnd v)) := by
  rw [ofText_scheme h, destination_ofRest]

/-! ### Addresses with a path -/

/-- Nothing but slashes stands here, and what is not read. -/
def IsBare (v : List Char) : Prop := ∀ c ∈ v, isSlash c = true ∨ isSkipped c = true

/-- The end of an address without the slashes at its end. -/
def shortened (v : List Char) : List Char := v.rdropWhile (· == '/')

variable {p q : List Char}

/-- What ends in a visible text is read to its end. -/
theorem readEnd_append (hp : ∀ c ∈ p, isEdge c = false) (some : p ≠ []) (a : List Char) :
    readEnd (a ++ p) = a.filter (fun c => ! isSkipped c) ++ p := by
  have kept : p.filter (fun c => ! isSkipped c) = p := by
    refine List.filter_eq_self.mpr fun c hc => ?_
    have visible := hp c hc
    cases skipped : isSkipped c with
    | false => rfl
    | true =>
      simp only [isSkipped, Bool.or_eq_true, beq_iff_eq] at skipped
      rcases skipped with (rfl | rfl) | rfl <;> cases visible
  have whole : (a ++ p).rdropWhile isEdge = a ++ p := by
    refine List.rdropWhile_eq_self_iff.mpr fun ne => ?_
    rw [List.getLast_append_of_ne_nil ne some, hp _ (List.getLast_mem some)]
    exact Bool.false_ne_true
  rw [readEnd, whole, List.filter_append, kept]

/-- Blanks and control characters at the end are not read. If they were, the authority would be the
same, or would name no server. -/
theorem authority_unread (secure : Bool) (v : List Char) :
    destinationOf? secure (authority (v.filter fun c => ! isSkipped c)) = none ∨
      authority (v.filter fun c => ! isSkipped c) = authority (readEnd v) := by
  have parts : (v.filter fun c => ! isSkipped c) =
      readEnd v ++ (v.rtakeWhile isEdge).filter fun c => ! isSkipped c := by
    rw [readEnd, ← List.filter_append, List.rdropWhile_append_rtakeWhile]
  have edges : ∀ x ∈ (v.rtakeWhile isEdge).filter fun c => ! isSkipped c, isEdge x = true :=
    fun x hx => List.mem_rtakeWhile_imp (List.mem_of_mem_filter hx)
  rw [parts]
  generalize (v.rtakeWhile isEdge).filter (fun c => ! isSkipped c) = e at edges
  rcases List.eq_nil_or_concat e with rfl | ⟨e, c, rfl⟩
  · exact .inr (by rw [List.append_nil])
  · rcases authority_edges edges (readEnd v) with same | ⟨t, ht⟩
    · exact .inr same
    · refine .inl ?_
      rw [ht, List.concat_eq_append, ← List.append_assoc]
      exact destinationOf?_concat (edges c (by simp)) secure _

/-- An address that was given a path instead of the slashes at its end leads to the same server, if
it leads anywhere, unless it was bare. -/
theorem authority_shortened (hv : ¬ IsBare v) (hq : ∀ c ∈ '/' :: q, isEdge c = false)
    (secure : Bool) :
    destinationOf? secure (authority (readEnd (shortened v ++ '/' :: q))) = none ∨
      authority (readEnd (shortened v ++ '/' :: q)) = authority (readEnd v) := by
  let kept (s : List Char) : List Char := s.filter fun c => ! isSkipped c
  have split : shortened v ++ v.rtakeWhile (· == '/') = v := List.rdropWhile_append_rtakeWhile
  have slashes : ∀ x ∈ v.rtakeWhile (· == '/'), x = '/' := fun x hx => by
    simpa using List.mem_rtakeWhile_imp hx
  have some : ∃ x ∈ kept (shortened v), isSlash x = false := by
    simp only [IsBare, not_forall, not_or, Bool.not_eq_true] at hv
    obtain ⟨x, hx, other, read⟩ := hv
    refine ⟨x, List.mem_filter.mpr ⟨?_, by simp [read]⟩, other⟩
    rw [← split] at hx
    rcases List.mem_append.mp hx with hx | hx
    · exact hx
    · rw [slashes x hx] at other
      cases other
  have request : authority (readEnd (shortened v ++ '/' :: q)) =
      authority (kept (shortened v)) := by
    rw [readEnd_append hq (List.cons_ne_nil _ _), authority_longer some]
  rw [request]
  cases tail : v.rtakeWhile (· == '/') with
  | cons x xs =>
    rw [tail] at split slashes
    obtain rfl : x = '/' := slashes x List.mem_cons_self
    have visible : ∀ c ∈ '/' :: xs, isEdge c = false := fun c hc => by rw [slashes c hc]; rfl
    refine .inr ?_
    conv_rhs => rw [← split, readEnd_append visible (List.cons_ne_nil _ _)]
    exact (authority_longer some xs).symm
  | nil =>
    -- without a slash at the end there may be blanks, which the path keeps from being cut off
    rw [tail, List.append_nil] at split
    rw [split]
    exact authority_unread secure v

/-- A bare address leads nowhere, and the path that it is given is read as if it began with the
authority. -/
theorem ofRest_bared (hv : IsBare v) (hq : ∀ c ∈ '/' :: q, isEdge c = false) (secure : Bool) :
    authority (readEnd v) = [] ∧
      ofRest? secure (readEnd (shortened v ++ '/' :: q)) = ofRest? secure ('/' :: q) := by
  have slashes {s : List Char} (h : s <+: v) :
      ∀ x ∈ s.filter (fun c => ! isSkipped c), isSlash x = true := by
    intro x hx
    obtain ⟨hs, read⟩ := List.mem_filter.mp hx
    rcases hv x (h.subset hs) with slash | skipped
    · exact slash
    · simp [skipped] at read
  constructor
  · have none := authority_bare (slashes (List.rdropWhile_prefix isEdge v)) []
    rwa [List.append_nil] at none
  · have front : shortened v <+: v := List.rdropWhile_prefix _ v
    rw [readEnd_append hq (List.cons_ne_nil _ _)]
    exact ofRest_congr secure (List.dropWhile_append_of_pos (slashes front))

end Url

end Outbox.Http
