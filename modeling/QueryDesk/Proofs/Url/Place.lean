import QueryDesk.Proofs.Url.Name
import QueryDesk.Proofs.Url.Word

/-!
# The place of the host

What stands in front of the host of a URL is a scheme, slashes and perhaps a user; behind the host
stand perhaps a port and then what is no longer read for it. In this place one host may be written
instead of another, and the URL is read as before but for the host. From any other place of its text
a name does not become the host of a URL that has another host: it belongs to another part, or the
text of the host has more in it than the name.

Main statements: `read_replace`, `place_of_read`.
-/

namespace QueryDesk.Url

/-! ### Authorities -/

def Kind.backslash : Kind → Bool
  | .other => false
  | _ => true

def Kind.goesOn (k : Kind) (c : Char) : Bool := !endsAuthority k.backslash c

/-- The text of a host within an authority; `more` tells whether something comes behind it. -/
def hostIn (k : Kind) (authority : List Char) (more : Bool) : Option (List Char) :=
  if k = .file then some authority
  else match readUser authority more with
    | .ok (_, _, rest) => some (splitPort false rest).1
    | .error _ => none

/-- The text of a host, behind the slashes. -/
def hostText (k : Kind) (cs : List Char) : Option (List Char) :=
  hostIn k (cs.takeWhile k.goesOn) (!(cs.dropWhile k.goesOn).isEmpty)

theorem hostIn_of_ok {k : Kind} (hk : k ≠ .file) {authority rest : List Char} {more : Bool}
    {name password : String} (h : readUser authority more = .ok (name, password, rest)) :
    hostIn k authority more = some (splitPort false rest).1 := by
  rw [hostIn, if_neg hk, h]

def readName : Kind → List Char → Except UrlError String
  | .other => Host.readPlain
  | _ => Host.read

theorem backslash_kind (scheme : String) : (kind scheme).backslash = isSpecial scheme := by
  rw [kind]
  split
  next h => rw [beq_iff_eq.1 h]; rfl
  next =>
    split
    next h => exact h.symm
    next h => exact (Bool.eq_false_iff.2 h).symm

theorem host_of_readAuthority {scheme : String} {cs : List Char} {u : Url}
    (hkind : kind scheme ≠ .file) (h : readAuthority scheme cs = .ok u) :
    ∃ t host, hostText (kind scheme) cs = some t ∧ readName (kind scheme) t = .ok host ∧
      u.host = some host := by
  have hback := backslash_kind scheme
  simp only [readAuthority, bind, Except.bind, pure, Except.pure, throw, throwThe,
    MonadExceptOf.throw, ← hback] at h
  split at h
  next => cases h
  next x hx =>
    obtain ⟨name, password, rest⟩ := x
    have huser : readUser (cs.takeWhile (kind scheme).goesOn)
        (!(cs.dropWhile (kind scheme).goesOn).isEmpty) = .ok (name, password, rest) := by
      rw [← drop_takeWhile]
      exact hx
    have htext : hostText (kind scheme) cs = some (splitPort false rest).1 := hostIn_of_ok hkind huser
    dsimp only at h
    split at h
    · cases h
    cases hk : kind scheme with
    | file => exact absurd hk hkind
    | _ =>
      rw [hk] at htext
      simp only [hk, Kind.backslash, if_true, if_false, Bool.false_eq_true] at h
      split at h
      next => cases h
      next host hhost =>
        refine ⟨_, host, htext, hhost, ?_⟩
        repeat' split at h
        all_goals first | (cases h; done) | (cases h; rfl)

theorem host_filePath (host : String) (cs : List Char) :
    (filePath host cs).host = some host ∨ (filePath host cs).host = some "" := by
  unfold filePath
  dsimp only
  split
  · split
    · exact .inr rfl
    · exact .inl rfl
  · exact .inl rfl

theorem host_of_readFile {cs : List Char} {u : Url} {h : String} (hread : readFile cs = .ok u)
    (hhost : u.host = some h) (hne : h ≠ "") :
    ∃ r, behindSlashes .file cs = some r ∧
      Host.read (r.takeWhile (!endsAuthority true ·)) = .ok h := by
  have hempty : ∀ r, (filePath "" r).host ≠ some h := fun r hr => by
    rcases host_filePath "" r with he | he <;> exact hne (Option.some.inj (hr.symm.trans he))
  unfold readFile at hread
  dsimp only at hread
  split at hread
  next a b r =>
    split at hread
    next hslash =>
      split at hread
      next => cases hread; exact absurd hhost (hempty _)
      next =>
        split at hread
        next => cases hread; exact absurd hhost (hempty _)
        next =>
          cases hname : Host.read (r.takeWhile (!endsAuthority true ·)) with
          | error e =>
            rw [hname] at hread
            cases hread
          | ok host =>
            refine ⟨r, if_pos hslash, hname.trans (congrArg Except.ok ?_)⟩
            rw [hname] at hread
            cases hread
            rcases host_filePath (if host == "localhost" then "" else host) _ with he | he
            · have hsame := Option.some.inj (he.symm.trans hhost)
              split at hsame
              · exact absurd hsame.symm hne
              · exact hsame
            · exact absurd (Option.some.inj (he.symm.trans hhost)).symm hne
    next => cases hread; exact absurd hhost (hempty _)
  next => cases hread; exact absurd hhost (hempty _)

/-- A host that is found in a URL is read from its text. -/
theorem host_of_read {s h : String} {u : Url} (hread : read s = .ok u) (hhost : u.host = some h)
    (hne : h ≠ "") : ∃ scheme rest r t, scheme? (cleaned s) = some (scheme, rest) ∧
      behindSlashes (kind scheme) rest = some r ∧ hostText (kind scheme) r = some t ∧
        readName (kind scheme) t = .ok h := by
  unfold read at hread
  split at hread
  next => cases hread
  next scheme rest hscheme =>
    split at hread
    next hfile =>
      obtain ⟨r, hr, hname⟩ := host_of_readFile hread hhost hne
      have hkind : kind scheme = .file := if_pos hfile
      exact ⟨scheme, rest, r, _, hscheme, by rw [hkind, hr], by rw [hkind]; rfl,
        by rw [hkind]; exact hname⟩
    next hfile =>
      split at hread
      next hspecial =>
        have hkind : kind scheme = .special := by rw [kind, if_neg hfile, if_pos hspecial]
        obtain ⟨t, host, ht, hname, hu⟩ := host_of_readAuthority (by simp [hkind]) hread
        rw [hhost, Option.some.injEq] at hu
        rw [hu]
        exact ⟨scheme, rest, _, t, hscheme, by rw [hkind]; rfl, ht, hname⟩
      next hspecial =>
        have hkind : kind scheme = .other := by rw [kind, if_neg hfile, if_neg hspecial]
        split at hread
        next r =>
          obtain ⟨t, host, ht, hname, hu⟩ := host_of_readAuthority (by simp [hkind]) hread
          rw [hhost, Option.some.injEq] at hu
          rw [hu]
          exact ⟨scheme, _, r, t, hscheme, by rw [hkind]; rfl, ht, hname⟩
        next =>
          cases hread
          unfold readPathOnly at hhost
          split at hhost <;> cases hhost

/-! ### The place of a host -/

/-- What may stand around a host: in front a user with an `@`, behind the host a port, and no other `@`
before the authority ends. The host of a file has neither. -/
structure Beside (k : Kind) (front back : List Char) : Prop where
  goesOn : ∀ c ∈ front, k.goesOn c = true
  user : front = [] ∨ front.getLast? = some '@'
  no_at : '@' ∉ back.takeWhile k.goesOn
  port : back.takeWhile k.goesOn = [] ∨ (back.takeWhile k.goesOn).head? = some ':'
  file : k = .file → front = [] ∧ back.takeWhile k.goesOn = []

theorem goesOn_word {v : List Char} (hv : IsWord v) (k : Kind) : ∀ c ∈ v, k.goesOn c = true := by
  intro c hc
  rw [Kind.goesOn, endsAuthority, hv.beq_of_mem hc (by decide), hv.beq_of_mem hc (by decide),
    hv.beq_of_mem hc (by decide), hv.beq_of_mem hc (by decide), Bool.and_false]
  rfl

theorem hostText_ended {k : Kind} {a : List Char} (h : ∃ c ∈ a, k.goesOn c = false) :
    ∃ t, ∀ x, x ≠ [] → hostText k (a ++ x) = t := by
  refine ⟨hostIn k (a.takeWhile k.goesOn) true, fun x hx => ?_⟩
  have hmore : ((a ++ x).dropWhile k.goesOn).isEmpty = false := by
    rw [dropWhile_append_early h x]
    simp [hx]
  rw [hostText, takeWhile_append_early h x, hmore]
  rfl

theorem takeWhile_word {k : Kind} {a v : List Char} (ha : ∀ c ∈ a, k.goesOn c = true)
    (hv : IsWord v) (b : List Char) :
    (a ++ (v ++ b)).takeWhile k.goesOn = a ++ (v ++ b.takeWhile k.goesOn) := by
  rw [List.takeWhile_append_of_pos ha, List.takeWhile_append_of_pos (goesOn_word hv k)]

/-- A word stands where the host stands, or it is not in the text of the host, or there is more in it
than the word. -/
theorem hostText_word (k : Kind) (a b : List Char) :
    Beside k a b ∨ (∃ t, ∀ v, IsWord v → hostText k (a ++ (v ++ b)) = t) ∨
      ∃ p s, (p ≠ [] ∨ s ≠ []) ∧ ∀ v, IsWord v →
        hostText k (a ++ (v ++ b)) = some (p ++ (v ++ s)) := by
  by_cases hend : ∃ c ∈ a, k.goesOn c = false
  · obtain ⟨t, ht⟩ := hostText_ended hend
    exact .inr (.inl ⟨t, fun v hv => ht _ (by simp [hv.ne_nil])⟩)
  have ha : ∀ c ∈ a, k.goesOn c = true := fun c hc => by
    cases hgo : k.goesOn c with
    | true => rfl
    | false => exact absurd ⟨c, hc, hgo⟩ hend
  by_cases hfile : k = .file
  · subst hfile
    by_cases hbare : a = [] ∧ b.takeWhile Kind.file.goesOn = []
    · exact .inl ⟨ha, .inl hbare.1, by simp [hbare.2], .inl hbare.2, fun _ => hbare⟩
    · refine .inr (.inr ⟨a, b.takeWhile Kind.file.goesOn, ?_, fun v hv => ?_⟩)
      · rwa [not_and_or] at hbare
      · rw [hostText, takeWhile_word ha hv]
        rfl
  by_cases hat : '@' ∈ b.takeWhile k.goesOn
  · obtain ⟨h, hh⟩ := readUser_word_of_mem hat a
    refine .inr (.inl ⟨some (splitPort false h).1, fun v hv => ?_⟩)
    obtain ⟨name, password, huser⟩ := hh v _ hv
    rw [hostText, takeWhile_word ha hv, hostIn_of_ok hfile huser]
  · obtain ⟨name, password, h, hnot, hsplit, huser⟩ := readUser_word (a := a) hat
    have hword : ∀ v, IsWord v → hostText k (a ++ (v ++ b)) =
        some (splitPort false (h ++ (v ++ b.takeWhile k.goesOn))).1 := fun v hv => by
      rw [hostText, takeWhile_word ha hv, hostIn_of_ok hfile (huser v _ hv)]
    rcases splitPort_append false h with ⟨t, ht⟩ | ⟨i, hi, hgo⟩
    · exact .inr (.inl ⟨some t, fun v hv => by rw [hword v hv, ht]⟩)
    · have haround : ∀ v, IsWord v → hostText k (a ++ (v ++ b)) =
          some (h ++ (v ++ (splitPort i (b.takeWhile k.goesOn)).1)) := fun v hv => by
        rw [hword v hv, hgo, splitPort_word hv]
      by_cases hbare : h = [] ∧ (splitPort i (b.takeWhile k.goesOn)).1 = []
      · obtain ⟨rfl, hport⟩ := hbare
        rw [hi rfl] at hport
        refine .inl ⟨ha, ?_, hat, of_splitPort_eq_nil hport, fun hk => absurd hk hfile⟩
        rcases hsplit with rfl | ⟨u, rfl⟩
        · exact .inl rfl
        · exact .inr (by simp)
      · rw [not_and_or] at hbare
        exact .inr (.inr ⟨_, _, hbare, haround⟩)

/-- The texts in front of the host of a URL and behind it. -/
def Place (front back : List Char) : Prop :=
  ∃ scheme rest user, scheme? front = some (scheme, rest) ∧
    behindSlashes (kind scheme) rest = some user ∧ Beside (kind scheme) user back

theorem kind_of_not_special {scheme : String} (h : isSpecial scheme = false) :
    kind scheme = .other := by
  have hfile : (scheme == "file") = false := by
    rw [isSpecial, Bool.or_eq_false_iff] at h
    exact h.1
  rw [kind, hfile, h]
  rfl

section Words

variable {a b v w : List Char} {u u' : Url} (hv : IsWord v) (hw : IsWord w)
include hv hw

/-- A word inside the scheme is in no host: the scheme is not special with either word, and what
follows it is read alike. -/
theorem host_inside_scheme (hall : ∀ c ∈ leading a, isSchemePart c = true)
    (hread : read (String.ofList (a ++ (w ++ b))) = .ok u) (hhost : u.host = some (String.ofList w))
    (hread' : read (String.ofList (a ++ (v ++ b))) = .ok u')
    (hhost' : u'.host = some (String.ofList v)) : String.ofList w = String.ofList v := by
  obtain ⟨s, rest, r, t, hs, hr, ht, hn⟩ := host_of_read hread hhost hw.ofList_ne
  obtain ⟨s', rest', r', t', hs', hr', ht', hn'⟩ := host_of_read hread' hhost' hv.ofList_ne
  rw [cleaned_word hw] at hs
  rw [cleaned_word hv] at hs'
  obtain ⟨hspecial, hrest⟩ := scheme?_inside hw hall hs
  obtain ⟨hspecial', hrest'⟩ := scheme?_inside hv hall hs'
  rw [hrest] at hrest'
  cases hrest'
  rw [kind_of_not_special hspecial] at hr ht hn
  rw [kind_of_not_special hspecial'] at hr' ht' hn'
  rw [hr] at hr'
  cases hr'
  rw [ht] at ht'
  cases ht'
  rw [hn] at hn'
  exact Except.ok.inj hn'

/-- Behind a scheme, a name that is the host with either word stands where a host stands. -/
theorem place_behind_scheme (hname : Host.IsName v) (hne : String.ofList w ≠ String.ofList v)
    (hend : ∃ c ∈ leading a, isSchemePart c = false)
    (hread : read (String.ofList (a ++ (w ++ b))) = .ok u) (hhost : u.host = some (String.ofList w))
    (hread' : read (String.ofList (a ++ (v ++ b))) = .ok u')
    (hhost' : u'.host = some (String.ofList v)) : Place (leading a) (trailing b) := by
  obtain ⟨s, rest, r, t, hs, hr, ht, hn⟩ := host_of_read hread hhost hw.ofList_ne
  obtain ⟨s', rest', r', t', hs', hr', ht', hn'⟩ := host_of_read hread' hhost' hv.ofList_ne
  rw [cleaned_word hw, scheme?_append hend] at hs
  rw [cleaned_word hv, scheme?_append hend] at hs'
  obtain ⟨⟨name, front⟩, hscheme, hpair⟩ := Option.map_eq_some_iff.1 hs
  rw [hscheme] at hs'
  obtain ⟨hs, hrest⟩ := Prod.mk.inj hpair
  obtain ⟨hs', hrest'⟩ := Prod.mk.inj (Option.some.inj hs')
  rw [← hs, ← hrest, behindSlashes_word hw] at hr
  rw [← hs', ← hrest', behindSlashes_word hv] at hr'
  rw [← hs] at ht hn
  rw [← hs'] at ht' hn'
  obtain ⟨user, huser, rfl⟩ := Option.map_eq_some_iff.1 hr
  rw [huser] at hr'
  cases hr'
  rcases hostText_word (kind name) user (trailing b) with hbeside | ⟨x, hx⟩ | ⟨p, q, hpq, hx⟩
  · exact ⟨name, front, user, hscheme, huser, hbeside⟩
  · -- The word is not in the text of the host, so the hosts are one.
    rw [hx w hw] at ht
    rw [hx v hv, ht] at ht'
    cases ht'
    rw [hn] at hn'
    exact absurd (Except.ok.inj hn') hne
  · -- A name is read only from itself, so nothing else is in the text of the host.
    rw [hx v hv] at ht'
    cases ht'
    have hnil : p = [] ∧ q = [] := by
      cases hk : kind name with
      | other => rw [hk] at hn'; exact hname.readPlain_around hn'
      | _ => rw [hk] at hn'; exact hname.read_around hn'
    exact absurd hpq (by simp [hnil])

/-- Where another name instead of the host becomes the host, the name stands in its place. -/
theorem place_of_read (hname : Host.IsName v) (hne : w ≠ v)
    (hread : read (String.ofList (a ++ (w ++ b))) = .ok u) (hhost : u.host = some (String.ofList w))
    (hread' : read (String.ofList (a ++ (v ++ b))) = .ok u')
    (hhost' : u'.host = some (String.ofList v)) : Place (leading a) (trailing b) := by
  have hdiffer : String.ofList w ≠ String.ofList v := fun h => hne (String.ofList_inj.1 h)
  by_cases hend : ∃ c ∈ leading a, isSchemePart c = false
  · exact place_behind_scheme hv hw hname hdiffer hend hread hhost hread' hhost'
  · have hall : ∀ c ∈ leading a, isSchemePart c = true := fun c hc => by
      cases hpart : isSchemePart c with
      | true => rfl
      | false => exact absurd ⟨c, hc, hpart⟩ hend
    exact absurd (host_inside_scheme hv hw hall hread hhost hread' hhost') hdiffer

end Words

/-- A host that is read as it is written. -/
structure Steady (v : List Char) : Prop where
  read : Host.read v = .ok (String.ofList v)
  readPlain : Host.readPlain v = .ok (String.ofList v)

/-- In front of a host stands a user with an `@`, or nothing; the host is read by itself. -/
theorem Beside.readUser {k : Kind} {user back : List Char} (h : Beside k user back) :
    ∃ name password, ∀ v more, IsWord v → Url.readUser (user ++ (v ++ back.takeWhile k.goesOn)) more =
      .ok (name, password, v ++ back.takeWhile k.goesOn) := by
  obtain ⟨name, password, rest, hnot, hsplit, huser⟩ := readUser_word (a := user) h.no_at
  have hrest : rest = [] := by
    rcases List.eq_nil_or_concat rest with hnil | ⟨r, c, hr⟩
    · exact hnil
    · have hlast : user.getLast? = some c := by
        rcases hsplit with rfl | ⟨u, rfl⟩
        · rw [hr, List.concat_eq_append, List.getLast?_concat]
        · rw [hr, List.concat_eq_append, ← List.cons_append, ← List.append_assoc,
            List.getLast?_concat]
      rcases h.user with rfl | hat
      · cases hlast
      · rw [hlast] at hat
        cases hat
        exact absurd (by simp [hr]) hnot
  subst hrest
  exact ⟨name, password, huser⟩

/-- Behind a host nothing is part of it: a port follows, or the authority ends. -/
theorem Beside.splitPort {k : Kind} {user back : List Char} (h : Beside k user back) :
    (Url.splitPort false (back.takeWhile k.goesOn)).1 = [] := by
  rcases h.port with hnil | hcolon
  · rw [hnil]
    rfl
  · obtain ⟨r, hr⟩ := List.head?_eq_some_iff.1 hcolon
    rw [hr]
    rfl

/-- What an authority is read as depends on its host by that host alone. -/
theorem readAuthority_beside {scheme : String} {user back : List Char}
    (h : Beside (kind scheme) user back) :
    ∃ (ports : Except UrlError (Option Nat × List Char)) (name password : String) (tail : List Char),
      ∀ v, IsWord v → Steady v → readAuthority scheme (user ++ (v ++ back)) = ports.map fun p =>
        finish scheme name password (some (String.ofList v)) p.1 (p.2 ++ tail) := by
  obtain ⟨name, password, huser⟩ := h.readUser
  have hport := h.splitPort
  refine ⟨(splitPort false (back.takeWhile (kind scheme).goesOn)).2.elim (.ok (none, []))
    (readPort scheme), name, password, back.dropWhile (kind scheme).goesOn, fun v hv steady => ?_⟩
  have htake : (user ++ (v ++ back)).takeWhile (!endsAuthority (isSpecial scheme) ·) =
      user ++ (v ++ back.takeWhile (kind scheme).goesOn) := by
    rw [← backslash_kind]
    exact takeWhile_word h.goesOn hv back
  have hdrop : (user ++ (v ++ back)).drop
      (user ++ (v ++ back.takeWhile (kind scheme).goesOn)).length =
        back.dropWhile (kind scheme).goesOn := by
    rw [← takeWhile_word h.goesOn hv back, drop_takeWhile, List.dropWhile_append_of_pos h.goesOn,
      List.dropWhile_append_of_pos (goesOn_word hv _)]
  have hempty : (String.ofList v == "") = false := beq_eq_false_iff_ne.2 hv.ofList_ne
  have hnonempty : v.isEmpty = false := List.isEmpty_eq_false_iff.2 hv.ne_nil
  simp only [readAuthority, htake, hdrop, huser v _ hv, splitPort_word hv, hport,
    List.append_nil, steady.read, steady.readPlain, ite_self, hempty, hnonempty, Bool.and_false,
    Bool.false_and, Bool.false_eq_true, if_false, bind, Except.bind, pure, Except.pure]
  cases (splitPort false (back.takeWhile (kind scheme).goesOn)).2 with
  | none => rfl
  | some p =>
    cases hp : readPort scheme p with
    | error e => simp [hp, Except.map]
    | ok q => simp [hp, Except.map]

/-- A path that begins with a drive has no host, and any other has every host. -/
theorem filePath_cases (cs : List Char) : (∀ name, (filePath name cs).host = some "") ∨
    ∀ name, filePath name cs = finish "file" "" "" (some name) none cs := by
  cases hpath : (finish "file" "" "" (some "") none cs).path with
  | opaqueText s =>
    refine .inr fun name => ?_
    have h : (finish "file" "" "" (some name) none cs).path = .opaqueText s := hpath
    rw [filePath, h]
  | segments parts =>
    have h : ∀ name, (finish "file" "" "" (some name) none cs).path = .segments parts := fun _ => hpath
    rcases parts with - | ⟨p, ps⟩
    · exact .inr fun name => by rw [filePath, h]
    · by_cases hdrive : isDrive p.toList = true
      · exact .inl fun name => by simp only [filePath, h, if_pos hdrive]
      · exact .inr fun name => by simp only [filePath, h, if_neg hdrive]

theorem exists_of_scheme? {cs : List Char} {p : String × List Char} (h : scheme? cs = some p) :
    ∃ c ∈ cs, isSchemePart c = false := by
  rcases cs with - | ⟨c, cs⟩
  · cases h
  rw [scheme?_cons] at h
  split at h
  · cases h
  split at h
  next r hr =>
    have hmem : ':' ∈ (c :: cs).dropWhile isSchemePart := by
      rw [hr]
      exact List.mem_cons_self
    exact ⟨':', (List.dropWhile_suffix _).subset hmem, by decide⟩
  next => cases h

theorem read_eq_readAuthority {t s : String} {rest r : List Char}
    (hs : scheme? (cleaned t) = some (s, rest)) (hr : behindSlashes (kind s) rest = some r)
    (hk : kind s ≠ .file) : read t = readAuthority s r := by
  rw [read, hs]
  dsimp only
  by_cases hfile : (s == "file") = true
  · exact absurd (if_pos hfile) hk
  rw [if_neg hfile]
  by_cases hspecial : isSpecial s = true
  · rw [kind, if_neg hfile, if_pos hspecial] at hr
    rw [if_pos hspecial, ← Option.some.inj hr]
    rfl
  · rw [kind, if_neg hfile, if_neg hspecial] at hr
    rw [if_neg hspecial]
    rcases rest with - | ⟨x, - | ⟨y, rest⟩⟩
    · cases hr
    · simp [behindSlashes] at hr
    · by_cases hslashes : x = '/' ∧ y = '/'
      · obtain ⟨rfl, rfl⟩ := hslashes
        cases hr
        rfl
      · rw [behindSlashes] at hr
        · cases hr
        · rintro r' hxy
          cases hxy
          exact hslashes ⟨rfl, rfl⟩

theorem read_eq_readFile {t s : String} {rest : List Char}
    (hs : scheme? (cleaned t) = some (s, rest)) (hk : kind s = .file) : read t = readFile rest := by
  have hfile : (s == "file") = true := by
    by_contra hnot
    rw [kind, if_neg hnot] at hk
    split at hk <;> cases hk
  rw [read, hs]
  exact if_pos hfile

theorem eq_pair_of_behindSlashes {front : List Char} (h : behindSlashes .file front = some []) :
    ∃ p q, front = [p, q] ∧ (isSlash p && isSlash q) = true := by
  rcases front with - | ⟨p, - | ⟨q, front⟩⟩
  · cases h
  · cases h
  rw [behindSlashes] at h
  split at h
  next hslash =>
    cases h
    exact ⟨p, q, rfl, hslash⟩
  next => cases h

theorem readFile_word {v back : List Char} {p q : Char} (hv : IsWord v) (steady : Steady v)
    (hslash : (isSlash p && isSlash q) = true) (hback : back.takeWhile Kind.file.goesOn = []) :
    readFile (p :: q :: (v ++ back)) = .ok
      (filePath (if String.ofList v == "localhost" then "" else String.ofList v) back) := by
  have htake : (v ++ back).takeWhile (!endsAuthority true ·) = v := by
    have h : (v ++ back).takeWhile Kind.file.goesOn = v ++ back.takeWhile Kind.file.goesOn :=
      List.takeWhile_append_of_pos (goesOn_word hv .file)
    rw [hback, List.append_nil] at h
    exact h
  have hdrive : isDrive v = false := by
    have hlong := hv.long
    rcases v with - | ⟨c, - | ⟨d, - | ⟨e, v⟩⟩⟩
    · simp at hlong
    · simp at hlong
    · simp at hlong
    · rfl
  have hslash' : ((p == '/' || p == '\\') && (q == '/' || q == '\\')) = true := hslash
  simp only [readFile, hslash', htake, hdrive, List.isEmpty_eq_false_iff.2 hv.ne_nil, steady.read,
    if_true, if_false, Bool.false_eq_true, bind, Except.bind, pure, Except.pure, List.drop_left]

section Replace

variable {a b v w : List Char} {u : Url} (place : Place (leading a) (trailing b))
include place

/-- In the place of the host another host may be written, and nothing else is read differently. -/
theorem read_replace (hw : IsWord w) (hv : IsWord v) (steady : Steady w) (steady' : Steady v)
    (notLocal : v ≠ "localhost".toList) (hread : read (String.ofList (a ++ (w ++ b))) = .ok u)
    (hhost : u.host = some (String.ofList w)) :
    read (String.ofList (a ++ (v ++ b))) = .ok { u with host := some (String.ofList v) } := by
  obtain ⟨s, front, user, hs, hslashes, hbeside⟩ := place
  have hend := exists_of_scheme? hs
  have hscheme : ∀ x, IsWord x → scheme? (cleaned (String.ofList (a ++ (x ++ b)))) =
      some (s, front ++ (x ++ trailing b)) := fun x hx => by
    rw [cleaned_word hx, scheme?_append hend, hs]
    rfl
  have hbehind : ∀ x, IsWord x → behindSlashes (kind s) (front ++ (x ++ trailing b)) =
      some (user ++ (x ++ trailing b)) := fun x hx => by
    rw [behindSlashes_word hx, hslashes]
    rfl
  by_cases hk : kind s = .file
  · rw [hk] at hslashes hbeside
    obtain ⟨rfl, hback⟩ := hbeside.file rfl
    obtain ⟨p, q, rfl, hslash⟩ := eq_pair_of_behindSlashes hslashes
    have hfile : ∀ x, IsWord x → Steady x → read (String.ofList (a ++ (x ++ b))) = .ok
        (filePath (if String.ofList x == "localhost" then "" else String.ofList x) (trailing b)) :=
      fun x hx hsteady =>
        (read_eq_readFile (hscheme x hx) hk).trans (readFile_word hx hsteady hslash hback)
    have hlocal : (String.ofList v == "localhost") = false := by
      rw [beq_eq_false_iff_ne]
      exact fun h => notLocal (String.ofList_inj.1 h)
    rw [hfile w hw steady, Except.ok.injEq] at hread
    rw [hfile v hv steady', hlocal]
    rw [← hread] at hhost ⊢
    rcases filePath_cases (trailing b) with hnone | hall
    · rw [hnone, Option.some.injEq] at hhost
      exact absurd hhost.symm hw.ofList_ne
    · rw [hall, hall]
      rfl
  · obtain ⟨ports, name, password, tail, hports⟩ := readAuthority_beside hbeside
    rw [read_eq_readAuthority (hscheme w hw) (hbehind w hw) hk, hports w hw steady] at hread
    rw [read_eq_readAuthority (hscheme v hv) (hbehind v hv) hk, hports v hv steady']
    cases ports with
    | error e => cases hread
    | ok p =>
      cases hread
      rfl

end Replace

end QueryDesk.Url
