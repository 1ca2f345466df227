import GaleraProxy.Proofs.Http.Authority

/-!
# URLs of a host and a port

A URL made of a scheme, a host, a port and a path names this host and this port exactly if it is
short enough and the host is not torn: it does not end early, and a scan of the authority passes it.
-/

namespace GaleraProxy.Http.Uri

open Address (portDigits)
open AuthorityScan

variable {scheme host path url : String} {rest text : List Char} {port : UInt16}

/-- A text is a URI of a host and a port. -/
def Names (url host : String) (port : UInt16) : Prop :=
  ∃ uri, parse url = .ok uri ∧ uri.host = host ∧ uri.port? = some port

/-- A path without a query is taken as it is. -/
theorem splitPath_of_chars (h : ∀ c ∈ text, isPathChar c = true) :
    splitPath text = .ok (text, none) := by
  rw [splitPath, List.takeWhile_eq_self_iff.mpr h, List.dropWhile_eq_nil_iff.mpr h]

/-- The schemes in which agents are asked. -/
def IsWeb (scheme : String) : Prop := scheme = "http" ∨ scheme = "https"

theorem splitScheme_web (h : IsWeb scheme) (rest : List Char) :
    splitScheme (scheme.toList ++ ':' :: '/' :: '/' :: rest) = .ok (some scheme.toList, rest) := by
  have hchars : ∀ c ∈ scheme.toList, isSchemeChar c = true := by
    rcases h with rfl | rfl
    · exact List.all_eq_true.mp (by decide +kernel)
    · exact List.all_eq_true.mp (by decide +kernel)
  have hlength : scheme.toList.length ≤ maxSchemeLength ∧ 0 < scheme.toList.length := by
    rcases h with rfl | rfl
    · decide +kernel
    · decide +kernel
  have hcolon : isSchemeChar ':' = false := rfl
  rw [splitScheme, List.takeWhile_append_of_pos hchars, List.dropWhile_append_of_pos hchars]
  have hlong : ¬ (scheme.toList ++ ':' :: '/' :: '/' :: rest).length ≤ 3 := by
    rw [List.length_append, List.length_cons, List.length_cons, List.length_cons]
    omega
  simp only [List.takeWhile_cons_of_neg (Bool.eq_false_iff.mp hcolon),
    List.dropWhile_cons_of_neg (Bool.eq_false_iff.mp hcolon), List.append_nil,
    if_neg hlong, if_neg (Nat.not_lt.mpr hlength.1)]

/-- A URL is read in three steps: its length is checked, the authority is split off, and the path
is. -/
theorem parse_web_eq_ok_iff (h : IsWeb scheme)
    (hurl : url.toList = scheme.toList ++ ':' :: '/' :: '/' :: rest) {uri : Uri} :
    parse url = .ok uri ↔
      url.utf8ByteSize ≤ maxLength ∧ ∃ authority after path query,
        splitAuthority rest = .ok (authority, after) ∧ authority ≠ [] ∧
        splitPath after = .ok (path, query) ∧
        uri = ⟨some scheme, String.ofList authority, String.ofList path,
          query.map String.ofList⟩ := by
  have hfull : parse url = if maxLength < url.utf8ByteSize then .error .tooLong
      else parseFull (scheme.toList ++ ':' :: '/' :: '/' :: rest) := by
    rw [parse, hurl]
    rcases h with rfl | rfl
    · rfl
    · rfl
  have hparts : parseFull (scheme.toList ++ ':' :: '/' :: '/' :: rest) =
      if rest.isEmpty then .error .empty
      else splitAuthority rest >>= fun p =>
        if p.1.isEmpty then .error .format
        else splitPath p.2 >>= fun q =>
          .ok ⟨some (String.ofList scheme.toList), String.ofList p.1, String.ofList q.1,
            q.2.map String.ofList⟩ := by
    rw [parseFull, splitScheme_web h]
    rfl
  rw [hfull, hparts, String.ofList_toList]
  constructor
  · intro hparse
    split at hparse
    · cases hparse
    · rename_i hsize
      split at hparse
      · cases hparse
      · obtain ⟨⟨authority, after⟩, hauthority, hparse⟩ := bind_eq_ok_iff.mp hparse
        split at hparse
        · cases hparse
        · rename_i hnonempty
          obtain ⟨⟨path, query⟩, hpath, hparse⟩ := bind_eq_ok_iff.mp hparse
          have hne : authority ≠ [] := fun hnil => hnonempty (hnil ▸ rfl)
          exact ⟨Nat.not_lt.mp hsize, authority, after, path, query, hauthority, hne, hpath,
            (Except.ok.inj hparse).symm⟩
  · rintro ⟨hsize, authority, after, path, query, hauthority, hne, hpath, rfl⟩
    have hrest : rest.isEmpty = false := by
      cases rest with
      | nil => exact absurd (splitAuthority_eq_ok_iff.mp hauthority).1 hne
      | cons d others => rfl
    have hnonempty : ¬ authority.isEmpty = true := fun hempty => hne (List.isEmpty_iff.mp hempty)
    rw [if_neg (Nat.not_lt.mpr hsize), hrest, if_neg Bool.false_ne_true]
    refine bind_eq_ok_iff.mpr ⟨(authority, after), hauthority, ?_⟩
    rw [if_neg hnonempty]
    exact bind_eq_ok_iff.mpr ⟨(path, query), hpath, rfl⟩

/-- A host that is found again in the authority that a port makes of it. -/
structure Intact (host : List Char) (port : UInt16) : Prop where
  whole : ∀ c ∈ host, endsAuthority c = false
  passed : ∃ s, Runs start (host ++ ':' :: portDigits port) s ∧ s.Accepted
  found : hostOf (host ++ ':' :: portDigits port) = host

theorem whole_of_authorityChar {c : Char} (h : isAuthorityChar c = true) :
    endsAuthority c = false := by
  refine Bool.eq_false_iff.mpr fun hends => ?_
  simp only [endsAuthority, Bool.or_eq_true, beq_iff_eq] at hends
  rcases hends with (rfl | rfl) | rfl
  · cases h
  · cases h
  · cases h

theorem whole_port (port : UInt16) : ∀ c ∈ ':' :: portDigits port, endsAuthority c = false := by
  refine List.forall_mem_cons.mpr ⟨rfl, fun c hc => ?_⟩
  exact whole_of_authorityChar (plain_of_digit (Address.isSome_digit_of_mem_portDigits hc)).1

/-- The authority of a whole host is split off before the path. -/
theorem split_of_whole {host : List Char} (h : ∀ c ∈ host, endsAuthority c = false) (port : UInt16)
    (path : List Char) :
    let text := host ++ ':' :: portDigits port ++ '/' :: path
    (text.takeWhile fun c => !endsAuthority c) = host ++ ':' :: portDigits port ∧
      (text.dropWhile fun c => !endsAuthority c) = '/' :: path := by
  have hall : ∀ c ∈ host ++ ':' :: portDigits port, (!endsAuthority c) = true := by
    intro c hc
    rw [(List.mem_append.mp hc).elim (h c) (whole_port port c)]
    rfl
  have hslash : endsAuthority '/' = true := rfl
  refine ⟨?_, ?_⟩
  · rw [List.takeWhile_append_of_pos hall, List.takeWhile_cons_of_neg (by simp [hslash]),
      List.append_nil]
  · rw [List.dropWhile_append_of_pos hall, List.dropWhile_cons_of_neg (by simp [hslash])]

/-- A host that is not whole ends its authority early. -/
theorem whole_of_length {host : List Char}
    (h : host.length ≤ ((host ++ text).takeWhile fun c => !endsAuthority c).length) :
    ∀ c ∈ host, endsAuthority c = false := by
  rw [List.takeWhile_append] at h
  split at h
  · rename_i hall
    intro c hc
    have hself := (List.takeWhile_sublist fun c => !endsAuthority c).eq_of_length hall
    rw [List.takeWhile_eq_self_iff] at hself
    simpa using hself c hc
  · rename_i hshort
    have hle := (List.takeWhile_sublist (fun c => !endsAuthority c) (l := host)).length_le
    exact absurd (Nat.le_antisymm hle h) hshort

/-- A URL names its host and port exactly if it is short enough and the host is intact. -/
theorem names_web_iff (h : IsWeb scheme) (hpath : ∀ c ∈ path.toList, isPathChar c = true)
    (hurl : url = scheme ++ "://" ++ host ++ ":" ++ toString port.toNat ++ "/" ++ path) :
    Names url host port ↔ url.utf8ByteSize ≤ maxLength ∧ Intact host.toList port := by
  let authority := host.toList ++ ':' :: portDigits port
  have hchars : url.toList =
      scheme.toList ++ ':' :: '/' :: '/' :: (authority ++ '/' :: path.toList) := by
    simp [hurl, authority, ← Address.toList_toString_port]
  have hslash : ∀ c ∈ '/' :: path.toList, isPathChar c = true :=
    List.forall_mem_cons.mpr ⟨rfl, hpath⟩
  constructor
  · rintro ⟨uri, hparse, hhost, -⟩
    obtain ⟨hsize, own, after, path', query, hsplit, -, -, rfl⟩ :=
      (parse_web_eq_ok_iff h hchars).mp hparse
    obtain ⟨rfl, -, hpassed⟩ := splitAuthority_eq_ok_iff.mp hsplit
    have hfound : hostOf ((authority ++ '/' :: path.toList).takeWhile fun c => !endsAuthority c) =
        host.toList := by
      simpa [Uri.host, ← String.toList_inj] using hhost
    -- a host that is cut short is longer than the authority, so it could not be found there
    have hlength := hostOf_length_le
      ((authority ++ '/' :: path.toList).takeWhile fun c => !endsAuthority c)
    rw [hfound, List.append_assoc] at hlength
    have hwhole := whole_of_length hlength
    rw [(split_of_whole hwhole port path.toList).1] at hpassed hfound
    exact ⟨hsize, hwhole, hpassed, hfound⟩
  · rintro ⟨hsize, hwhole, hpassed, hfound⟩
    obtain ⟨htake, hdrop⟩ := split_of_whole hwhole port path.toList
    have hsplit : splitAuthority (authority ++ '/' :: path.toList) =
        .ok (authority, '/' :: path.toList) :=
      splitAuthority_eq_ok_iff.mpr ⟨htake.symm, hdrop.symm, hpassed⟩
    have hne : authority ≠ [] := by simp [authority]
    refine ⟨_, (parse_web_eq_ok_iff h hchars).mpr ⟨hsize, authority, _, _, _, hsplit, hne,
      splitPath_of_chars hslash, rfl⟩, ?_, ?_⟩
    · rw [Uri.host, String.toList_ofList, hfound, String.ofList_toList]
    · rw [Uri.port?, String.toList_ofList]
      exact portOf_append host.toList port

/-- A host that begins without a bracket is intact only as a name. -/
theorem Intact.name {host : List Char} (h : Intact host port) (hhead : host.head? ≠ some '[') :
    '@' ∉ host ∧ ':' ∉ host ∧ (∀ c ∈ host, c = '%' ∨ isAuthorityChar c = true) ∧
      ('[' ∉ host → '%' ∉ host) := by
  have huser := user_not_mem_hostOf (host ++ ':' :: portDigits port)
  rw [h.found] at huser
  have hcolon : ':' ∉ host := by
    rw [← h.found] at hhead ⊢
    exact colon_not_mem_hostOf hhead
  obtain ⟨s, hruns, haccepted⟩ := h.passed
  refine ⟨huser, hcolon, fun c hc => hruns.chars c (List.mem_append_left _ hc), ?_⟩
  intro hopen hpercent
  -- without a bracket the percent sign is still noted at the end, where none may be
  have hstays := hruns.percent (not_mem_append_port hopen (by decide) rfl port)
    (not_mem_append_port huser (by decide) rfl port) rfl (.inr (List.mem_append_left _ hpercent))
  rw [haccepted.percent] at hstays
  cases hstays

theorem intact_name {host : List Char} (h : ∀ c ∈ host, IsPlain c) (port : UInt16) :
    Intact host port where
  whole c hc := whole_of_authorityChar (h c hc).1
  passed := runs_name h port
  found := by
    have hnot : ∀ d ∈ [':', '[', ']', '@'], d ∉ host := fun d hd hmem => (h d hmem).2 hd
    refine hostOf_name (hnot '@' (by simp)) (hnot ':' (by simp)) (fun hhead => ?_) port
    exact hnot '[' (by simp) (List.mem_of_mem_head? hhead)

theorem intact_bracketed {inside : List Char} (h : ∀ c ∈ inside, c = ':' ∨ IsPlain c)
    (hcolons : inside.count ':' ≤ 8) (port : UInt16) :
    Intact ('[' :: (inside ++ [']'])) port where
  whole c hc := by
    have hchar : isAuthorityChar c = true := by
      rcases List.mem_cons.mp hc with rfl | hmem
      · rfl
      · rcases List.mem_append.mp hmem with hinside | hclose
        · rcases h c hinside with rfl | hplain
          · rfl
          · exact hplain.1
        · obtain rfl := List.mem_singleton.mp hclose
          rfl
    exact whole_of_authorityChar hchar
  passed := runs_bracketed h hcolons port
  found := by
    have hnot : ∀ d ∈ ['[', ']', '@'], d ∉ inside := by
      intro d hd hmem
      rcases h d hmem with rfl | hplain
      · simp at hd
      · exact hplain.2 (List.mem_cons_of_mem ':' hd)
    exact hostOf_bracketed (hnot '@' (by simp)) (hnot ']' (by simp)) port

end GaleraProxy.Http.Uri
