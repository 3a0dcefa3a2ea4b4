/-
From an answer to a ping back to its request (`get_lead_details` of
`routes/dashboard.rs`).

An accepted internal ping is answered with the identifier of Pulsar, to which the router
appends the campaign; the request is stored under the identifier of the queue.  The
dashboard takes what stands after the last `_C` for the identifier of Pulsar, and puts
`pending` in the place of `accepted`.

* `afterLast_append`, `count_replace` — what the string operations leave;
* `key_of_suffixed` — of an identifier with a campaign only the campaign is left;
* `key_of_generated` — without a campaign, the text that is read has other fields;
* `ping_untraceable` — the derived key is never the one that the request has.
-/
import LeadsNebula.PingIds
import LeadsNebula.PulsarAsync
import LeadsNebula.Resubmission

namespace LeadsNebula

/-! ### Strings -/

/-- `rsplit(pat).next()`: what follows the last `pat`, or the whole text. -/
def afterLast (pat : List Char) : List Char → List Char
  | [] => []
  | c :: cs =>
    if pat <:+: cs then afterLast pat cs
    else if pat <+: c :: cs then (c :: cs).drop pat.length
    else c :: cs

/-- `str::replace`; the number is that of the characters of a match that are still to be skipped. -/
def replaceFrom (pat sub : List Char) : ℕ → List Char → List Char
  | _, [] => []
  | k + 1, _ :: cs => replaceFrom pat sub k cs
  | 0, c :: cs =>
    if pat <+: c :: cs then sub ++ replaceFrom pat sub (pat.length - 1) cs
    else c :: replaceFrom pat sub 0 cs

/-- `str::replace`. -/
def replace (pat sub cs : List Char) : List Char := replaceFrom pat sub 0 cs

section Strings

variable {pat sub : List Char}

theorem afterLast_of_absent {cs : List Char} (h : ¬pat <:+: cs) : afterLast pat cs = cs := by
  cases cs with
  | nil => rfl
  | cons c cs =>
    rw [afterLast, if_neg fun hcs => h (hcs.trans (List.suffix_cons c cs).isInfix),
      if_neg fun hcs => h hcs.isInfix]

/-- What follows the last `pat`, where `pat` begins with a character that does not come later. -/
theorem afterLast_append {p : Char} (a : List Char) {b : List Char} (hpat : p ∉ pat) (hb : p ∉ b) :
    afterLast (p :: pat) (a ++ p :: pat ++ b) = b := by
  induction a with
  | nil =>
    have hnot : ¬(p :: pat) <:+: pat ++ b := by
      intro h
      have hmem := h.subset List.mem_cons_self
      exact (List.mem_append.mp hmem).elim hpat hb
    rw [List.nil_append, List.cons_append, afterLast, if_neg hnot,
      if_pos ⟨b, rfl⟩]
    exact List.drop_left' rfl
  | cons c a ih =>
    rw [List.cons_append, List.cons_append, afterLast, if_pos ⟨a, b, rfl⟩, ih]

/-- A character that stands in `pat` as often as in `sub` is not lost. -/
theorem count_replaceFrom {c : Char} (hpat : pat ≠ []) (h : sub.count c = pat.count c) (k : ℕ)
    (cs : List Char) : (replaceFrom pat sub k cs).count c = (cs.drop k).count c := by
  induction cs generalizing k with
  | nil => cases k <;> rfl
  | cons d cs ih =>
    cases k with
    | succ k => exact ih k
    | zero =>
      rw [replaceFrom]
      split
      · next hprefix =>
        obtain ⟨rest, hrest⟩ := hprefix
        have hlength : pat.length = pat.length - 1 + 1 :=
          (Nat.sub_add_cancel (List.length_pos_of_ne_nil hpat)).symm
        have hdrop : cs.drop (pat.length - 1) = rest := by
          have htail : (d :: cs).drop pat.length = rest := by rw [← hrest, List.drop_left]
          rwa [hlength] at htail
        rw [List.count_append, ih, hdrop, h, List.drop_zero, ← hrest, List.count_append]
      · rw [List.count_cons, ih, List.drop_zero, List.drop_zero, List.count_cons]

theorem count_replace {c : Char} (hpat : pat ≠ [])
    (h : sub.count c = pat.count c) (cs : List Char) :
    (replace pat sub cs).count c = cs.count c :=
  count_replaceFrom hpat h 0 cs

/-- In a text that is shorter than `pat` nothing is replaced. -/
theorem replace_of_short {cs : List Char} (h : cs.length < pat.length) :
    replace pat sub cs = cs := by
  unfold replace
  induction cs with
  | nil => rfl
  | cons c cs ih =>
    rw [replaceFrom, if_neg fun hprefix => Nat.not_le_of_lt h hprefix.length_le,
      ih (Nat.lt_of_succ_lt h)]

end Strings

/-! ### The identifier of the request -/

/-- A time of the calendar. -/
structure CivilTime where
  year : ℤ
  month : ℕ
  day : ℕ
  hour : ℕ
  minute : ℕ
  second : ℕ

namespace CivilTime

/-- A number with zeros before it. -/
def padded (width n : ℕ) : List Char := (Nat.toDigits 10 n).leftpad width '0'

/-- `format("%Y%m%d%H%M%S")`; a year of more or fewer than four digits has a sign. -/
def stamp (t : CivilTime) : String :=
  let year :=
    if 0 ≤ t.year ∧ t.year ≤ 9999 then padded 4 t.year.natAbs
    else (if t.year < 0 then '-' else '+') :: padded 4 t.year.natAbs
  String.ofList (year ++ padded 2 t.month ++ padded 2 t.day ++ padded 2 t.hour ++
    padded 2 t.minute ++ padded 2 t.second)

theorem bar_not_mem_padded (width n : ℕ) : '|' ∉ padded width n := by
  intro h
  rw [padded, List.leftpad, List.mem_append] at h
  obtain h | h := h
  · exact absurd (List.eq_of_mem_replicate h) (by decide)
  · exact absurd (Nat.isDigit_of_mem_toDigits (by decide) (by decide) h) (by decide)

theorem bar_not_mem_stamp (t : CivilTime) : '|' ∉ t.stamp.toList := by
  have hyear : '|' ∉ (if 0 ≤ t.year ∧ t.year ≤ 9999 then padded 4 t.year.natAbs
      else (if t.year < 0 then '-' else '+') :: padded 4 t.year.natAbs) := by
    split
    · exact bar_not_mem_padded _ _
    · refine List.not_mem_cons_of_ne_of_not_mem ?_ (bar_not_mem_padded _ _)
      split <;> decide
  simp [stamp, hyear, bar_not_mem_padded]

end CivilTime

theorem not_mem_hexDigits {x : Char} (hx : ∀ n < 16, Nat.digitChar n ≠ x) (u : Uuid)
    (start count : ℕ) : x ∉ u.hexDigits start count := by
  intro h
  obtain ⟨i, -, hi⟩ := List.mem_map.mp h
  exact hx _ (Nat.mod_lt _ (by decide)) hi

theorem bar_not_mem_toString (u : Uuid) : '|' ∉ u.toString.toList := by
  rw [Uuid.toList_toString]
  simp [not_mem_hexDigits (x := '|') (by decide)]

/-- The identifier of a request stands for a text of three fields. -/
theorem count_bar_pending (l : Uuid) (t : CivilTime) :
    (l.toString ++ "|" ++ t.stamp ++ "|pending").toList.count '|' = 2 := by
  simp only [String.toList_append, List.count_append,
    List.count_eq_zero.mpr (bar_not_mem_toString l),
    List.count_eq_zero.mpr t.bar_not_mem_stamp]
  decide

/-- The identifier of an accepted ping stands for a text of four fields at least. -/
theorem three_le_count_bar_accepted (leadId : String) (d : PulsarDraw) :
    3 ≤ (leadId ++ "|" ++ toString d.pingTsMs ++ "|" ++ Encoding.hexUpper d.pingNonce ++
      "|accepted").toList.count '|' := by
  have hbar : "|".toList.count '|' = 1 := by decide
  have haccepted : "|accepted".toList.count '|' = 1 := by decide
  simp only [String.toList_append, List.count_append, hbar, haccepted]
  omega

/-! ### The derivation of the dashboard -/

/-- `br_ping_id_to_pending_key`. -/
def brPingIdToPendingKey (pid : String) : Option String :=
  if "FP_".toList <+: pid.toList then
    let afterFp := pid.toList.drop 3
    (Encoding.base64Decode (String.ofList (afterLast "_C".toList afterFp))).map fun decodedStr =>
      "FP_" ++ Encoding.base64
        (String.ofList (replace "|accepted".toList "|pending".toList decodedStr.toList))
  else none

theorem brPingIdToPendingKey_eq_some {base : List Char} {pid k : String}
    (hpid : pid.toList = "FP_".toList ++ base) (h : brPingIdToPendingKey pid = some k) :
    ∃ s : String, Encoding.base64 s = String.ofList (afterLast "_C".toList base) ∧
      k = "FP_" ++ Encoding.base64
        (String.ofList (replace "|accepted".toList "|pending".toList s.toList)) := by
  rw [brPingIdToPendingKey, hpid, if_pos (List.prefix_append _ _)] at h
  obtain ⟨s, hs, rfl⟩ := Option.map_eq_some_iff.mp h
  exact ⟨s, Encoding.base64Decode_eq_some_iff.mp hs, rfl⟩

theorem pendingKey_inj {s : String} {l : Uuid} {t : CivilTime}
    (h : "FP_" ++ Encoding.base64 s = Db.pingIdText l t.stamp) :
    s = l.toString ++ "|" ++ t.stamp ++ "|pending" := by
  rw [Db.pingIdText, ← String.toList_inj, String.toList_append, String.toList_append,
    List.append_cancel_left_eq, String.toList_inj] at h
  exact Encoding.base64_inj h

/-- Of an identifier with the campaign behind it only the campaign is left, which is no identifier
of a request. -/
theorem key_of_suffixed (pingId : String) (id l : Uuid) (t : CivilTime)
    (hpid : "FP_".toList <+: pingId.toList) :
    brPingIdToPendingKey (pingId ++ "_C" ++ campaignSuffix id) ≠
      some (Db.pingIdText l t.stamp) := by
  intro h
  obtain ⟨base, hbase⟩ := hpid
  have hshape : (pingId ++ "_C" ++ campaignSuffix id).toList =
      "FP_".toList ++ (base ++ '_' :: ['C'] ++ (campaignSuffix id).toList) := by
    rw [String.toList_append, String.toList_append, ← hbase, List.append_assoc, List.append_assoc,
      List.append_assoc]
    rfl
  have hdigits : '_' ∉ (campaignSuffix id).toList := by
    rw [campaignSuffix, String.toList_ofList]
    exact not_mem_hexDigits (by decide) id 0 8
  obtain ⟨s, hs, hk⟩ := brPingIdToPendingKey_eq_some hshape h
  rw [show "_C".toList = '_' :: ['C'] from rfl, afterLast_append base (by decide) hdigits,
    String.ofList_toList] at hs
  -- eight characters stand for six at most
  have hlength := Encoding.length_le_base64 s
  rw [hs, length_campaignSuffix] at hlength
  have hshort : s.toList.length < "|accepted".toList.length := by
    show s.toList.length < 9
    omega
  rw [replace_of_short hshort, String.ofList_toList] at hk
  have htext := congrArg (fun s : String => s.toList.length) (pendingKey_inj hk.symm)
  simp only [String.toList_append, List.length_append, Uuid.length_toString] at htext
  omega

/-- Without a campaign, the text of the identifier is read, which has other fields. -/
theorem key_of_generated (leadId : String) (d : PulsarDraw) (l : Uuid) (t : CivilTime) :
    brPingIdToPendingKey (PulsarService.generatePingId leadId d) ≠ some
      (Db.pingIdText l t.stamp) := by
  intro h
  obtain ⟨s, hs, hk⟩ := brPingIdToPendingKey_eq_some (String.toList_append ..) h
  have hmark : ¬"_C".toList <:+: (Encoding.base64 (leadId ++ "|" ++ toString d.pingTsMs ++ "|" ++
      Encoding.hexUpper d.pingNonce ++ "|accepted")).toList := by
    intro hmark
    have hmem : '_' ∈ _ := hmark.subset List.mem_cons_self
    rw [Encoding.base64, String.toList_ofList] at hmem
    exact Encoding.not_mem_base64Chars (by decide) (by decide) _ hmem
  rw [afterLast_of_absent hmark, String.ofList_toList] at hs
  obtain rfl := Encoding.base64_inj hs
  have hcount := congrArg (fun s : String => s.toList.count '|') (pendingKey_inj hk.symm)
  have hfields := three_le_count_bar_accepted leadId d
  simp only [String.toList_ofList, count_bar_pending] at hcount
  rw [count_replace (by decide) (by decide)] at hcount
  omega

/-- The key that the dashboard derives from the stored identifier of an accepted internal ping is
never that of the request of a lead. -/
theorem ping_untraceable (r : PingTreeRouter) (lead : Lead) (d : PulsarDraw) (campaignId : Uuid)
    (newId : String) (l : Uuid) (t : CivilTime) :
    (r.storedPingId (PulsarService.acceptedPing lead d) campaignId newId).bind
      brPingIdToPendingKey ≠
      some (Db.pingIdText l t.stamp) := by
  have hstored : r.storedPingId (PulsarService.acceptedPing lead d) campaignId newId =
      some (uniquePingId (PulsarService.generatePingId (PulsarService.leadIdOf lead) d)
        campaignId) := by
    simp only [PingTreeRouter.storedPingId, campaignSuffix_eq]
    rfl
  rw [hstored, Option.bind_some, uniquePingId]
  split
  · exact key_of_generated _ d l t
  · refine key_of_suffixed _ campaignId l t ?_
    rw [PulsarService.generatePingId, String.toList_append]
    exact List.prefix_append _ _

namespace Sample

/-- The dashboard reads the digits of the campaign, which are not even those of a text. -/
theorem not_traced :
    (((ping false).router new 0).storedPingId
      (PulsarService.acceptedPing ((ping false).newLead new 0)
      draw) campaign.id "1").bind brPingIdToPendingKey ≠
        some (Db.pingIdText new.uuid (CivilTime.mk 2024 1 1 0 0 0).stamp) := by
  decide +kernel

end Sample

end LeadsNebula
