/-
The list of leads (`list_leads` of `routes/dashboard.rs`).

A page is cut from a query of its own, sorted by `created_at` alone; the number of
pages is a quotient of floats, rounded up.

* `offsetOf_eq_iff` — the offset is the product it stands for, unless that leaves `i64`;
* `isLeast_totalPages` — the number of pages is the least that holds all leads;
* `pages_right_iff` — the pages together hold every lead once, exactly if the leads of
  no creation time stand on both sides of a page boundary.
-/
import LeadsNebula.Auth
import LeadsNebula.BinaryRound
import LeadsNebula.Dashboard
import LeadsNebula.Like
import LeadsNebula.Paging
import LeadsNebula.TenantIsolation

namespace LeadsNebula

/-- A lead with the columns that the list compares with a search text. -/
structure ListedLead extends Lead where
  emailEncrypted : Option String
  ipAddressEncrypted : Option String

namespace Listing

/-! ### The query string -/

/-- The decimal number of a text of digits. -/
def parseDigits (cs : List Char) : Option ℕ :=
  if cs ≠ [] ∧ cs.all Char.isDigit = true then
    some (cs.foldl (fun n c => 10 * n + (c.toNat - '0'.toNat)) 0)
  else none

/-- `str::parse::<i64>`. -/
def parseI64 (s : String) : Option ℤ :=
  match s.toList with
  | '-' :: cs => (parseDigits cs).bind fun n => if n ≤ 2 ^ 63 then some (-(n : ℤ)) else none
  | '+' :: cs => (parseDigits cs).bind fun n => if n < 2 ^ 63 then some (n : ℤ) else none
  | cs => (parseDigits cs).bind fun n => if n < 2 ^ 63 then some (n : ℤ) else none

/-- The decoded values of the query string. -/
structure ListQuery where
  page : Option String
  perPage : Option String
  search : Option String

/-- `(page - 1) * per_page`; a product of `i64` wraps around. -/
def offsetOf (page perPage : ℤ) : ℤ := ((page - 1) * perPage).bmod (2 ^ 64)

/-- The offset is the product that it stands for, unless the product leaves `i64`. -/
theorem offsetOf_eq_iff {page perPage : ℤ} (hpage : 1 ≤ page) (hper : 1 ≤ perPage) :
    offsetOf page perPage = (page - 1) * perPage ↔ (page - 1) * perPage < 2 ^ 63 := by
  have hnonneg : 0 ≤ (page - 1) * perPage := mul_nonneg (by omega) (by omega)
  unfold offsetOf
  constructor
  · intro h
    have hlt := Int.bmod_lt (x := (page - 1) * perPage) (m := 2 ^ 64) (by norm_num)
    rw [h] at hlt
    norm_num at hlt ⊢
    omega
  · intro hlt
    exact Int.bmod_eq_of_le (by norm_num; omega) (by norm_num; omega)

namespace ListQuery

variable (q : ListQuery)

def pageNumber : ℤ := max ((q.page.bind parseI64).getD 1) 1

/-- `clamp(1, 100)`. -/
def perPageNumber : ℤ := max 1 (min ((q.perPage.bind parseI64).getD 100) 100)

/-- The offset of the page that is asked for. -/
def offset : ℤ := offsetOf q.pageNumber q.perPageNumber

/-- The text to search for; a shorter one is not. -/
def searchTerm [StdText] : Option String :=
  q.search.bind fun s => if 3 ≤ (trim s).utf8ByteSize then some (toLowercase (trim s)) else none

theorem one_le_pageNumber : 1 ≤ q.pageNumber := le_max_right _ _

theorem perPageNumber_bounds : 1 ≤ q.perPageNumber ∧ q.perPageNumber ≤ 100 :=
  ⟨le_max_left _ _, max_le (by norm_num) (min_le_right _ _)⟩

end ListQuery

/-! ### The query of the database -/

section Query

variable (db : Dashboard.Db) (instanceId : Option Uuid)

/-- The lead is one of a publisher of the instance. -/
def visible (l : ListedLead) : Bool :=
  (db .publishers).rows.any fun p =>
    l.publisherId = some p.id ∧ instanceId = some p.instanceId ∧ p.deletedAt = none

/-- The columns that the search text may be a part of: the id of the lead, and the names of the
publisher and the buyer that the joins give. -/
def names (l : ListedLead) : List String :=
  l.leadId.toList ++
    ((db .publishers).rows.filter fun p => l.publisherId = some p.id ∧ p.deletedAt = none).map
      Publisher.name ++
    ((db .buyers).rows.filter fun b => l.buyerId = some b.id ∧ b.deletedAt = none).map
      Dashboard.Buyer.name

/-- The condition of the search; `lower` is the function of the database. -/
def matchesSearch (lower : String → String) (search : String) (l : ListedLead) : Bool :=
  (names db l).any (fun n => like (lower n).toList ('%' :: (search.toList ++ ['%']))) ||
    l.emailEncrypted = some search || l.ipAddressEncrypted = some search

/-- The leads of the listing, in no particular order. -/
def matching [StdText] (lower : String → String) (leads : Table fun l : ListedLead => l.uuid)
    (q : ListQuery) : List ListedLead :=
  leads.rows.filter fun l =>
    visible db instanceId l && q.searchTerm.all fun search => matchesSearch db lower search l

theorem nodup_matching [StdText] (lower : String → String)
    (leads : Table fun l : ListedLead => l.uuid) (q : ListQuery) :
    (matching db instanceId lower leads q).Nodup :=
  (List.Nodup.of_map _ leads.nodup).filter _

/-- `COUNT(DISTINCT l.uuid)`. -/
def totalCount (l : List ListedLead) : ℕ := ((l.map fun l => l.uuid).dedup).length

theorem totalCount_matching [StdText] (lower : String → String)
    (leads : Table fun l : ListedLead => l.uuid) (q : ListQuery) :
    totalCount (matching db instanceId lower leads q) =
      (matching db instanceId lower leads q).length := by
  have hnodup : ((matching db instanceId lower leads q).map fun l => l.uuid).Nodup :=
    leads.nodup.sublist (List.filter_sublist.map _)
  rw [totalCount, hnodup.dedup, List.length_map]

end Query

/-! ### Pages -/

/-- `as i64` of a float that is an integer. -/
def asI64 (n : ℤ) : ℤ := max (-2 ^ 63) (min n (2 ^ 63 - 1))

/-- `(total_count as f64 / per_page as f64).ceil() as i64`. -/
def totalPages (count : ℕ) (perPage : ℤ) : ℤ :=
  asI64 ⌈BinaryRound.round 53 (BinaryRound.round 53 count / BinaryRound.round 53 perPage)⌉

/-- `ORDER BY created_at DESC LIMIT per_page OFFSET offset` of leads that come in the order `o`;
a negative offset is an error. -/
def pageRows (page perPage : ℤ) (o : List ListedLead) : Option (List ListedLead) :=
  if offsetOf page perPage < 0 then none
  else some (Paging.page o perPage.toNat (offsetOf page perPage).toNat)

theorem pageRows_eq {k d : ℕ} (hd : 0 < d) (hk : k * d < 2 ^ 63) (o : List ListedLead) :
    pageRows (k + 1) d o = some (Paging.page o d (k * d)) := by
  have hprod : ((k : ℤ) + 1 - 1) * d = (k * d : ℕ) := by
    push_cast
    ring
  have hoffset : offsetOf (k + 1) d = (k * d : ℕ) := by
    rw [← hprod]
    refine (offsetOf_eq_iff (by omega) (by omega)).mpr ?_
    rw [hprod]
    exact_mod_cast hk
  rw [pageRows, hoffset, if_neg (by omega), Int.toNat_natCast, Int.toNat_natCast]

theorem totalPages_eq {count d : ℕ} (hcount : count < 2 ^ 53) (hd : 0 < d) (hd' : d ≤ 100) :
    totalPages count d = ⌈(count / d : ℚ)⌉ := by
  have hround : BinaryRound.round 53 ((d : ℤ) : ℚ) = d := by
    rw [Int.cast_natCast]
    exact BinaryRound.round_natCast (by omega)
  rw [totalPages, BinaryRound.round_natCast hcount, hround, BinaryRound.ceil_round_div hcount hd]
  -- the number of pages is far from the bounds of `i64`
  have hnonneg : 0 ≤ ⌈(count / d : ℚ)⌉ := Int.ceil_nonneg (by positivity)
  have hle : ⌈(count / d : ℚ)⌉ ≤ count := by
    rw [Int.ceil_le, Int.cast_natCast]
    exact div_le_self (by positivity) (by exact_mod_cast hd)
  unfold asI64
  omega

/-- The number of pages is the least that holds all leads. -/
theorem isLeast_totalPages {count d : ℕ} (hcount : count < 2 ^ 53) (hd : 0 < d) (hd' : d ≤ 100) :
    IsLeast {n : ℤ | (count : ℤ) ≤ n * d} (totalPages count d) := by
  have hpos : (0 : ℚ) < d := by exact_mod_cast hd
  rw [totalPages_eq hcount hd hd']
  constructor
  · have hceil := Int.le_ceil (count / d : ℚ)
    rw [div_le_iff₀ hpos] at hceil
    show (count : ℤ) ≤ _
    exact_mod_cast hceil
  · intro n hn
    rw [Int.ceil_le, div_le_iff₀ hpos]
    have hn : (count : ℤ) ≤ n * d := hn
    exact_mod_cast hn

/-- The pages of a listing are right: the offset of the page is the product it stands for, the
number of pages is the least that holds all leads, and whatever order each of the queries gives,
the pages together have every lead once. -/
structure PagesRight (q : ListQuery) (leads : List ListedLead) : Prop where
  offset : q.offset = (q.pageNumber - 1) * q.perPageNumber
  totalPages : IsLeast {n : ℤ | (totalCount leads : ℤ) ≤ n * q.perPageNumber}
    (totalPages (totalCount leads) q.perPageNumber)
  pages : ∀ o : ℕ → List ListedLead,
    (∀ k, Paging.Allowed (fun l => l.createdAt) leads (o k)) →
      ((List.range (Listing.totalPages (totalCount leads) q.perPageNumber).toNat).flatMap
        fun k : ℕ => (pageRows (k + 1) q.perPageNumber (o k)).getD []).Perm leads

/-- The pages are right exactly if the offset stays in `i64`, and the leads of no creation time
stand on both sides of a page boundary. -/
theorem pages_right_iff [StdText] (db : Dashboard.Db) (instanceId : Option Uuid)
    (lower : String → String) (leads : Table fun l : ListedLead => l.uuid) (q : ListQuery)
    (hcount : totalCount (matching db instanceId lower leads q) < 2 ^ 53) :
    PagesRight q (matching db instanceId lower leads q) ↔
      (q.pageNumber - 1) * q.perPageNumber < 2 ^ 63 ∧
      ∀ k t, ¬Paging.Straddles (fun l : ListedLead => l.createdAt)
        (matching db instanceId lower leads q) (k * q.perPageNumber.toNat) t := by
  obtain ⟨hper, hper'⟩ := q.perPageNumber_bounds
  obtain ⟨d, hd⟩ := Int.eq_ofNat_of_zero_le (a := q.perPageNumber) (by omega)
  rw [hd] at hper hper'
  have hleast := isLeast_totalPages hcount (d := d) (by omega) (by omega)
  have hlength := totalCount_matching db instanceId lower leads q
  generalize hn : totalPages (totalCount (matching db instanceId lower leads q)) d = n at hleast
  -- the pages that are announced hold all rows
  have henough : (matching db instanceId lower leads q).length ≤ n.toNat * d := by
    have hmem : (totalCount (matching db instanceId lower leads q) : ℤ) ≤ n * d := hleast.1
    have hle : n * d ≤ n.toNat * d := by gcongr; exact Int.self_le_toNat n
    rw [hlength] at hmem
    exact_mod_cast hmem.trans hle
  -- no offset of these pages is near the limits of the integers
  have hrows : ∀ o : ℕ → List ListedLead, ((List.range n.toNat).flatMap fun k : ℕ =>
      (pageRows (k + 1) d (o k)).getD []) =
        (List.range n.toNat).flatMap fun k => Paging.page (o k) d (k * d) := by
    intro o
    refine List.flatMap_congr fun k hk => ?_
    have hle : n ≤ totalCount (matching db instanceId lower leads q) :=
      hleast.2 (le_mul_of_one_le_right (by omega) hper)
    have hklt := List.mem_range.mp hk
    have hprod : k * d ≤ 2 ^ 53 * 100 := Nat.mul_le_mul (by omega) (by omega)
    rw [pageRows_eq (by omega) (hprod.trans_lt (by norm_num)), Option.getD_some]
  have hpages := Paging.pages_perm_iff (f := fun l : ListedLead => l.createdAt)
    (nodup_matching db instanceId lower leads q) (p := d) (by omega) henough
  constructor
  · rintro ⟨hoffset, -, honce⟩
    refine ⟨(offsetOf_eq_iff q.one_le_pageNumber (by omega)).mp hoffset, ?_⟩
    rw [hd, hn] at honce
    rw [hd]
    exact hpages.mp fun o ho => hrows o ▸ honce o ho
  · rintro ⟨hoffset, hties⟩
    rw [hd] at hties
    refine ⟨(offsetOf_eq_iff q.one_le_pageNumber (by omega)).mpr hoffset, ?_, ?_⟩
    · rw [hd, hn]
      exact hleast
    · rw [hd, hn]
      exact fun o ho => (hrows o).symm ▸ hpages.mpr hties o ho

end Listing

/-! ### Leads of one creation time -/

namespace Sample

open Listing

/-- A lead of the publisher of the user. -/
def listedLead (uuid : Uuid) (leadId : String) (createdAt : Timestamp)
    (emailEncrypted ipAddressEncrypted : Option String) : ListedLead where
  uuid := uuid
  eventId := "evt_1"
  leadId := some leadId
  publisherId := some 6
  verticalId := 3
  campaignId := none
  buyerId := none
  requestType := .ping
  strategy := "pingPost"
  status := .processing
  promiseId := none
  pingId := none
  postId := none
  sessionId := none
  tcpaConsent := false
  tcpaLanguage := ""
  isTest := false
  userAgent := none
  websiteUrl := none
  submittedAt := some createdAt
  soldAt := none
  verticalData := .obj []
  createdAt := createdAt
  updatedAt := createdAt
  emailEncrypted := emailEncrypted
  ipAddressEncrypted := ipAddressEncrypted

/-- Two leads that are created at the times `t` and `t'`. -/
def twoLeads (t t' : Timestamp) : Table fun l : ListedLead => l.uuid :=
  ⟨[listedLead 21 "SOLAR-AAAA" t none none, listedLead 22 "SOLAR-BBBB" t' none none],
    (by decide : [(21 : Uuid), 22].Nodup)⟩

/-- Pages of one lead. -/
def singly (page : String) : ListQuery := ⟨some page, some "1", none⟩

theorem perPageNumber_singly (page : String) : (singly page).perPageNumber = 1 := rfl

/-- With two leads of one time, the second page may show the lead of the first one again.  A page
number may be so large that its offset is negative. -/
theorem not_pagesRight :
    ¬PagesRight (singly "1") (matching oneTenant (some 1) id (twoLeads 10 10) (singly "1")) ∧
      ¬PagesRight ⟨some "9223372036854775807", some "2", none⟩
        (matching oneTenant (some 1) id (twoLeads 10 9) (singly "1")) := by
  constructor
  · intro h
    -- the query of the second page gives the leads the other way around
    have hpages := h.pages (fun k => if k = 0 then (twoLeads 10 10).rows
        else (twoLeads 10 10).rows.reverse) fun k => by
      split
      · exact ⟨List.Perm.refl _, by decide⟩
      · exact ⟨List.reverse_perm _, by decide⟩
    have hcount :
        totalCount (matching oneTenant (some 1) id (twoLeads 10 10) (singly "1")) = 2 := by
      decide
    have htotal : totalPages 2 (1 : ℕ) = 2 := by
      rw [totalPages_eq (by norm_num) (by norm_num) (by norm_num)]
      norm_num
    rw [hcount, perPageNumber_singly "1", ← Nat.cast_one, htotal] at hpages
    have hsecond := (hpages.map fun l => l.uuid).mem_iff (a := 22)
    revert hsecond
    decide
  · intro h
    exact absurd h.offset (by decide)

/-- Leads of different times are listed once each. -/
theorem pagesRight_singly :
    totalCount (matching oneTenant (some 1) id (twoLeads 10 9) (singly "1")) < 2 ^ 53 ∧
      PagesRight (singly "1") (matching oneTenant (some 1) id (twoLeads 10 9) (singly "1")) := by
  have hcount : totalCount (matching oneTenant (some 1) id (twoLeads 10 9) (singly "1")) = 2 := by
    decide
  have hlt : totalCount (matching oneTenant (some 1) id (twoLeads 10 9) (singly "1")) < 2 ^ 53 := by
    rw [hcount]
    norm_num
  exact ⟨hlt, (pages_right_iff _ _ _ _ _ hlt).mpr
    ⟨by decide, fun k => Paging.not_straddles_of_nodup (by decide) _⟩⟩

end Sample

end LeadsNebula
