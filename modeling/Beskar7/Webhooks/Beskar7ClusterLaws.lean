import Beskar7.Webhooks.Beskar7Cluster

/-!
# What the Beskar7Cluster webhook accepts

The hostname grammar the webhook is meant to check, stated on characters: a
host of at most 253 bytes, made of labels joined by dots, each of 1 to 63
ASCII letters, digits and hyphens, with no hyphen first or last
(`HostnameSpec`). `isValidHostname` decides it, for every string
(`isValidHostname_iff`).

Two things make that hold beyond ASCII text. A label whose runes all pass
the loop is ASCII, so its byte length, and the byte offsets the loop
compares, count its characters. And the check for `..` rejects nothing the
labels do not: two dots in a row leave an empty label between them.

With the port in range, a set endpoint is accepted exactly when its host is
an IP address or such a hostname (`validateBeskar7Cluster_ok_iff`).
-/

namespace Beskar7

open GoNet GoString

/-- A label of the hostname grammar. -/
structure LabelSpec (l : List Char) : Prop where
  ne_nil : l ≠ []
  length_le : l.length ≤ 63
  chars : ∀ c ∈ l, c.isAlphanum ∨ c = '-'
  head_ne : l.head? ≠ some '-'
  getLast_ne : l.getLast? ≠ some '-'

/-- A hostname: at most 253 bytes of labels joined by dots. -/
def HostnameSpec (host : String) : Prop :=
  (bytes host).length ≤ 253 ∧
    ∃ labels, labels ≠ [] ∧ host.toList = ['.'].intercalate labels ∧ ∀ l ∈ labels, LabelSpec l

theorem ascii_of_labelChars {l : List Char} (h : ∀ c ∈ l, c.isAlphanum ∨ c = '-') :
    ∀ c ∈ l, c.toNat < 128 := by
  intro c hc
  rcases h c hc with halnum | rfl
  · exact isAlphanum_ascii halnum
  · decide

theorem LabelSpec.not_dot {l : List Char} (h : LabelSpec l) : '.' ∉ l := by
  intro hdot
  rcases h.chars '.' hdot with halnum | hne
  · exact absurd halnum (by decide)
  · exact absurd hne (by decide)

/-- Labels of the grammar come back from joining and splitting. -/
theorem splitOn_intercalate_labels {labels : List (List Char)} (hne : labels ≠ [])
    (hls : ∀ l ∈ labels, LabelSpec l) : (['.'].intercalate labels).splitOn '.' = labels :=
  List.splitOn_intercalate '.' (fun l hl => (hls l hl).not_dot) hne

theorem HostnameSpec.ne_empty {host : String} (h : HostnameSpec host) : host ≠ "" := by
  rintro rfl
  obtain ⟨-, labels, hne, hhost, hls⟩ := h
  have hsplit := splitOn_intercalate_labels hne hls
  rw [← hhost, String.toList_empty, List.splitOn_nil] at hsplit
  exact (hls [] (hsplit ▸ List.mem_singleton_self [])).ne_nil rfl

namespace Beskar7ClusterWebhook

-- ---------------------------------------------------------------------------
-- Labels
-- ---------------------------------------------------------------------------

theorem labelRuneRejected_eq_false_iff {len i : Nat} {r : Char} :
    labelRuneRejected len i r = false ↔ r.isAlphanum ∨ (r = '-' ∧ i ≠ 0 ∧ i ≠ len - 1) := by
  unfold labelRuneRejected
  by_cases hr : r = '-'
  · subst hr
    simp
  · -- away from the hyphen, the loop's comparisons are the code point ranges
    have hne : r.toNat ≠ 45 := fun h => hr (Char.toNat_inj.mp h)
    simp [hr, isAlphanum_iff, char_lt_iff]
    omega

/-- Whatever the offsets, the loop passes only runes of the grammar. -/
theorem labelChars_of_runes {l : List Char} {len i : Nat}
    (h : ((rangeFrom l i).all fun (j, r) => !labelRuneRejected len j r) = true) :
    ∀ c ∈ l, c.isAlphanum ∨ c = '-' := by
  intro c hc
  rw [← rangeFrom_map_snd l i, List.mem_map] at hc
  obtain ⟨⟨j, r⟩, hmem, rfl⟩ := hc
  have hpass := List.all_eq_true.mp h _ hmem
  simp only [Bool.not_eq_eq_eq_not, Bool.not_true, labelRuneRejected_eq_false_iff] at hpass
  rcases hpass with halnum | ⟨hhyphen, -⟩
  · exact .inl halnum
  · exact .inr hhyphen

/-- On ASCII text the loop checks each character against its index. -/
theorem runes_ok_iff {l : List Char} (hl : ∀ c ∈ l, c.toNat < 128) :
    ((range (String.ofList l)).all fun (i, r) => !labelRuneRejected l.length i r) = true ↔
      ∀ i (h : i < l.length), l[i].isAlphanum ∨ (l[i] = '-' ∧ i ≠ 0 ∧ i ≠ l.length - 1) := by
  rw [range, String.toList_ofList, rangeFrom_eq_zipIdx hl 0, List.all_eq_true]
  simp only [List.mem_map, forall_exists_index, and_imp, forall_apply_eq_imp_iff₂, Prod.fst_swap,
    Prod.snd_swap, Bool.not_eq_eq_eq_not, Bool.not_true, labelRuneRejected_eq_false_iff]
  rw [List.forall_mem_zipIdx]
  simp only [Nat.zero_add]

/-- A hyphen only inside the label, by index, is a hyphen neither first nor
last. -/
theorem hyphens_inside_iff {l : List Char} (hne : l ≠ []) :
    (∀ i (h : i < l.length), l[i].isAlphanum ∨ (l[i] = '-' ∧ i ≠ 0 ∧ i ≠ l.length - 1)) ↔
      (∀ c ∈ l, c.isAlphanum ∨ c = '-') ∧ l.head? ≠ some '-' ∧ l.getLast? ≠ some '-' := by
  have hpos : 0 < l.length := List.length_pos_iff.mpr hne
  have hhyphen : ('-').isAlphanum = false := by decide
  rw [List.head?_eq_getElem?, List.getLast?_eq_getElem?, List.getElem?_eq_getElem hpos,
    List.getElem?_eq_getElem (by omega), ne_eq, ne_eq, Option.some.injEq, Option.some.injEq]
  constructor
  · intro h
    refine ⟨?_, ?_, ?_⟩
    · intro c hc
      obtain ⟨i, hi, rfl⟩ := List.mem_iff_getElem.mp hc
      rcases h i hi with halnum | ⟨hdash, -⟩
      · exact .inl halnum
      · exact .inr hdash
    · intro hfirst
      rcases h 0 hpos with halnum | ⟨-, h0, -⟩
      · rw [hfirst, hhyphen] at halnum
        exact Bool.false_ne_true halnum
      · exact h0 rfl
    · intro hlast
      rcases h (l.length - 1) (by omega) with halnum | ⟨-, -, hend⟩
      · rw [hlast, hhyphen] at halnum
        exact Bool.false_ne_true halnum
      · exact hend rfl
  · rintro ⟨hchars, hfirst, hlast⟩ i hi
    rcases hchars l[i] (List.getElem_mem hi) with halnum | hdash
    · exact .inl halnum
    · refine .inr ⟨hdash, ?_, ?_⟩
      · rintro rfl
        exact hfirst hdash
      · intro hend
        exact hlast (by simpa only [← hend] using hdash)

theorem isValidHostnameLabel_iff (l : List Char) :
    isValidHostnameLabel (String.ofList l) = true ↔ LabelSpec l := by
  unfold isValidHostnameLabel
  constructor
  · intro h
    split at h
    · exact absurd h Bool.false_ne_true
    rename_i hcond
    simp only [Bool.or_eq_true, decide_eq_true_eq, not_or, gt_iff_lt, not_lt,
      String.ofList_eq_empty_iff] at hcond
    obtain ⟨hne, hlen⟩ := hcond
    -- a label that passes is ASCII, so its bytes are its characters
    have hchars : ∀ c ∈ l, c.isAlphanum ∨ c = '-' := by
      rw [range, String.toList_ofList] at h
      exact labelChars_of_runes h
    have hascii := ascii_of_labelChars hchars
    rw [bytes_ofList_length hascii] at hlen h
    obtain ⟨-, hfirst, hlast⟩ := (hyphens_inside_iff hne).mp ((runes_ok_iff hascii).mp h)
    exact ⟨hne, hlen, hchars, hfirst, hlast⟩
  · intro h
    have hbytes := bytes_ofList_length (ascii_of_labelChars h.chars)
    have hruns := (runes_ok_iff (ascii_of_labelChars h.chars)).mpr
      ((hyphens_inside_iff h.ne_nil).mpr ⟨h.chars, h.head_ne, h.getLast_ne⟩)
    have hcond : ¬((String.ofList l = "" || (bytes (String.ofList l)).length > 63) = true) := by
      simp [String.ofList_eq_empty_iff, h.ne_nil, hbytes, h.length_le]
    rw [if_neg hcond, hbytes]
    exact hruns

-- ---------------------------------------------------------------------------
-- Hostnames
-- ---------------------------------------------------------------------------

theorem isValidHostname_iff (host : String) : isValidHostname host = true ↔ HostnameSpec host := by
  unfold isValidHostname stringsContains stringsSplit HostnameSpec
  have hdots : "..".toList = ['.', '.'] := rfl
  constructor
  · intro h
    split at h
    · exact absurd h Bool.false_ne_true
    rename_i hcond
    split at h
    · exact absurd h Bool.false_ne_true
    simp only [Bool.or_eq_true, decide_eq_true_eq, not_or, gt_iff_lt, not_lt] at hcond
    simp only [List.all_eq_true, List.mem_map, forall_exists_index, and_imp,
      forall_apply_eq_imp_iff₂] at h
    -- the labels are the pieces `strings.Split` cuts
    refine ⟨hcond.2, host.toList.splitOn '.', List.splitOn_ne_nil _ _,
      (List.intercalate_splitOn '.').symm, ?_⟩
    intro l hl
    exact (isValidHostnameLabel_iff l).mp (h l hl)
  · rintro ⟨hlen, labels, hne, hhost, hls⟩
    have hsplit : host.toList.splitOn '.' = labels := by
      rw [hhost]
      exact splitOn_intercalate_labels hne hls
    have hnil : [] ∉ labels := fun hmem => (hls [] hmem).ne_nil rfl
    -- the empty host and a pair of dots would both leave an empty label
    have hnonempty : host ≠ "" := by
      rintro rfl
      rw [String.toList_empty, List.splitOn_nil] at hsplit
      exact hnil (hsplit ▸ List.mem_singleton_self [])
    have hnodots : ¬['.', '.'] <:+: host.toList := by
      intro hinfix
      have hmem := nil_mem_tail_splitOn_of_infix hinfix
      rw [hsplit] at hmem
      exact hnil (List.mem_of_mem_tail hmem)
    have hcond : ¬((host = "" || (bytes host).length > 253) = true) := by
      simp [hnonempty, hlen]
    rw [if_neg hcond, hdots, decide_eq_false hnodots, if_neg Bool.false_ne_true, List.all_eq_true]
    intro piece hpiece
    obtain ⟨l, hl, rfl⟩ := List.mem_map.mp hpiece
    rw [hsplit] at hl
    exact (isValidHostnameLabel_iff l).mpr (hls l hl)

-- a label with a letter beyond ASCII fails, and a hyphen only inside one
example : isValidHostname "café.local" = false ∧ isValidHostname "cp-1.example.com" = true ∧
    isValidHostname "-cp.example.com" = false := by
  decide

-- ---------------------------------------------------------------------------
-- The endpoint
-- ---------------------------------------------------------------------------

theorem validateHost_eq_nil_iff (host : String) (fieldPath : List String) :
    validateHost host fieldPath = [] ↔ (parseIP (bytes host)).isSome ∨ HostnameSpec host := by
  rw [← isValidHostname_iff]
  unfold validateHost
  by_cases hip : (parseIP (bytes host)).isSome
  · simp [hip]
  · cases isValidHostname host <;> simp [hip]

theorem validatePort_eq_nil_iff (port : Int32) (fieldPath : List String) :
    validatePort port fieldPath = [] ↔ 1 ≤ port.toInt ∧ port.toInt ≤ 65535 := by
  -- the comparisons in Int32 are those of the integers
  have hout : (port < 1 ∨ port > 65535) ↔ ¬(1 ≤ port.toInt ∧ port.toInt ≤ 65535) := by
    simp only [gt_iff_lt, Int32.lt_iff_toInt_lt, Int32.reduceToInt]
    omega
  unfold validatePort
  by_cases hrange : 1 ≤ port.toInt ∧ port.toInt ≤ 65535
  · simp [hout, hrange]
  · simp [hout.mpr hrange, hrange]

/-- An endpoint passes when its host is set and passes, and its port is set
and passes; with the range of the port and the grammar of the host, both
are set. -/
theorem validateControlPlaneEndpoint_eq_nil_iff (endpoint : APIEndpoint) :
    validateControlPlaneEndpoint endpoint = [] ↔
      1 ≤ endpoint.port.toInt ∧ endpoint.port.toInt ≤ 65535 ∧
        ((parseIP (bytes endpoint.host)).isSome ∨ HostnameSpec endpoint.host) := by
  have hempty : (parseIP (bytes "")).isSome = false := rfl
  unfold validateControlPlaneEndpoint
  simp only [List.append_eq_nil_iff]
  constructor
  · rintro ⟨hhost, hport⟩
    by_cases hh : endpoint.host = ""
    · simp [hh] at hhost
    by_cases hp : endpoint.port = 0
    · simp [hp] at hport
    simp only [hh, if_false] at hhost
    simp only [ne_eq, hp, not_false_eq_true, if_true] at hport
    obtain ⟨hlow, hhigh⟩ := (validatePort_eq_nil_iff _ _).mp hport
    exact ⟨hlow, hhigh, (validateHost_eq_nil_iff _ _).mp hhost⟩
  · rintro ⟨hlow, hhigh, hok⟩
    -- an empty host is neither an address nor a hostname, and 0 is out of range
    have hh : endpoint.host ≠ "" := by
      rintro hh
      rw [hh] at hok
      rcases hok with hip | hname
      · exact Bool.false_ne_true (hempty ▸ hip)
      · exact hname.ne_empty rfl
    have hp : endpoint.port ≠ 0 := by
      intro hp
      rw [hp] at hlow
      exact absurd hlow (by decide)
    simp only [hh, if_false, ne_eq, hp, not_false_eq_true, if_true]
    exact ⟨(validateHost_eq_nil_iff _ _).mpr hok, (validatePort_eq_nil_iff _ _).mpr ⟨hlow, hhigh⟩⟩

theorem validateBeskar7Cluster_eq_ok_iff (cluster : Beskar7Cluster) :
    validateBeskar7Cluster cluster = .ok () ↔
      (cluster.spec.controlPlaneEndpoint.host = "" ∧ cluster.spec.controlPlaneEndpoint.port = 0) ∨
        validateControlPlaneEndpoint cluster.spec.controlPlaneEndpoint = [] := by
  unfold validateBeskar7Cluster
  by_cases hset : cluster.spec.controlPlaneEndpoint.host ≠ "" ∨ cluster.spec.controlPlaneEndpoint.port ≠ 0
  · have hunset : ¬(cluster.spec.controlPlaneEndpoint.host = "" ∧ cluster.spec.controlPlaneEndpoint.port = 0) := by
      rintro ⟨hh, hp⟩
      exact hset.elim (absurd hh) (absurd hp)
    by_cases herrs : validateControlPlaneEndpoint cluster.spec.controlPlaneEndpoint = []
    · simp [hset, herrs]
    · simp [hset, herrs, hunset]
  · have hunset : cluster.spec.controlPlaneEndpoint.host = "" ∧ cluster.spec.controlPlaneEndpoint.port = 0 := by
      simpa using hset
    simp [hunset]

/-- The errors of an endpoint come in order, at most one for each field. -/
theorem validateControlPlaneEndpoint_fields (endpoint : APIEndpoint) :
    List.Sublist ((validateControlPlaneEndpoint endpoint).map (·.field))
      [["spec", "controlPlaneEndpoint", "host"], ["spec", "controlPlaneEndpoint", "port"]] := by
  have hhost : ∀ path, List.Sublist ((validateHost endpoint.host path).map (·.field)) [path] := by
    intro path
    unfold validateHost
    split_ifs <;> simp [fieldInvalid]
  have hport : ∀ path, List.Sublist ((validatePort endpoint.port path).map (·.field)) [path] := by
    intro path
    unfold validatePort
    split_ifs <;> simp [fieldInvalid]
  unfold validateControlPlaneEndpoint
  rw [List.map_append, show [["spec", "controlPlaneEndpoint", "host"], ["spec", "controlPlaneEndpoint", "port"]] =
    [["spec", "controlPlaneEndpoint", "host"]] ++ [["spec", "controlPlaneEndpoint", "port"]] from rfl]
  apply List.Sublist.append
  · split_ifs
    · simp [fieldRequired]
    · exact hhost _
  · split_ifs
    · exact hport _
    · simp [fieldRequired]

/-- An Invalid error quotes the value of the field it names. -/
theorem validateControlPlaneEndpoint_invalid {endpoint : APIEndpoint} {e : FieldError}
    (he : e ∈ validateControlPlaneEndpoint endpoint) (hinvalid : e.type = .invalid) :
    (e.field = ["spec", "controlPlaneEndpoint", "host"] ∧ e.badValue = .string endpoint.host) ∨
      (e.field = ["spec", "controlPlaneEndpoint", "port"] ∧ e.badValue = .int32 endpoint.port) := by
  unfold validateControlPlaneEndpoint validateHost validatePort at he
  -- a Required error is of the other type; the Invalid ones are built with their field's value
  simp only [List.mem_append] at he
  rcases he with hhost | hport
  · split_ifs at hhost <;> simp_all [fieldRequired, fieldInvalid]
  · split_ifs at hport <;> simp_all [fieldRequired, fieldInvalid]

/-- The webhook accepts a Beskar7Cluster exactly when its control plane
endpoint is unset, or its port lies in 1..65535 and its host is an IP
address or a hostname of the grammar. -/
theorem validateBeskar7Cluster_ok_iff (cluster : Beskar7Cluster) :
    validateBeskar7Cluster cluster = .ok () ↔
      (cluster.spec.controlPlaneEndpoint.host = "" ∧ cluster.spec.controlPlaneEndpoint.port = 0) ∨
        (1 ≤ cluster.spec.controlPlaneEndpoint.port.toInt ∧ cluster.spec.controlPlaneEndpoint.port.toInt ≤ 65535 ∧
          ((parseIP (bytes cluster.spec.controlPlaneEndpoint.host)).isSome ∨
            HostnameSpec cluster.spec.controlPlaneEndpoint.host)) := by
  rw [validateBeskar7Cluster_eq_ok_iff, validateControlPlaneEndpoint_eq_nil_iff]

-- ---------------------------------------------------------------------------
-- Defaulting before validation
-- ---------------------------------------------------------------------------

/-- The API server runs the defaulting webhook before the validating one. A
host without a port is given 6443, so that endpoint is accepted exactly when
its host is. -/
theorem validateBeskar7Cluster_Default_eq_ok_iff (cluster : Beskar7Cluster) :
    validateBeskar7Cluster (Default cluster) = .ok () ↔
      (cluster.spec.controlPlaneEndpoint.host = "" ∧ cluster.spec.controlPlaneEndpoint.port = 0) ∨
        ((cluster.spec.controlPlaneEndpoint.port = 0 ∨
            1 ≤ cluster.spec.controlPlaneEndpoint.port.toInt ∧ cluster.spec.controlPlaneEndpoint.port.toInt ≤ 65535) ∧
          ((parseIP (bytes cluster.spec.controlPlaneEndpoint.host)).isSome ∨
            HostnameSpec cluster.spec.controlPlaneEndpoint.host)) := by
  rw [validateBeskar7Cluster_eq_ok_iff, validateControlPlaneEndpoint_eq_nil_iff]
  unfold Default defaultBeskar7Cluster
  by_cases hdefault : cluster.spec.controlPlaneEndpoint.host ≠ "" ∧ cluster.spec.controlPlaneEndpoint.port = 0
  · obtain ⟨hh, hp⟩ := hdefault
    have h6443 : (6443 : Int32).toInt = 6443 := by decide
    simp [hh, hp, h6443]
  · by_cases hp : cluster.spec.controlPlaneEndpoint.port = 0
    · -- no default: the host is empty too, and the endpoint unset
      have hh : cluster.spec.controlPlaneEndpoint.host = "" := by
        by_contra hh
        exact hdefault ⟨hh, hp⟩
      simp [hh, hp]
    · simp [hp, and_assoc]

end Beskar7ClusterWebhook

end Beskar7
