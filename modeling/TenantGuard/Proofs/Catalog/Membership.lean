import TenantGuard.Catalog.Builtin

/-!
# Classification by membership

A classifier is built by adding names to the lists of classes, one listing after the other.
What the sets of members hold in the end is which class some listing named an entity type
for, and nothing about the listings' number or order.  The main statement reads the class of
an entity type off its listings alone: the most restrictive of the classes that are decided
by lists wins, and listings for the other classes are without effect.
-/

namespace TenantGuard

/-- Names that are added to the list of a class. -/
structure Listing where
  securityClass : SecurityClass
  entities : List String
  deriving DecidableEq, Repr

namespace Listing

/-- Some listing names the entity type for the class. -/
def Names (listings : List Listing) (securityClass : SecurityClass) (entity : String) : Prop :=
  ∃ listing ∈ listings, listing.securityClass = securityClass ∧ entity ∈ listing.entities

instance (listings : List Listing) (securityClass : SecurityClass) (entity : String) :
    Decidable (Names listings securityClass entity) :=
  inferInstanceAs (Decidable (∃ listing ∈ listings, _ ∧ _))

/-- Listings in another order, and with those for one class put into one. -/
inductive Regrouped : List Listing → List Listing → Prop where
  | reordered {listings others : List Listing} (same : listings.Perm others) :
      Regrouped listings others
  | merged (securityClass : SecurityClass) (first second : List String) (rest : List Listing) :
      Regrouped (⟨securityClass, first⟩ :: ⟨securityClass, second⟩ :: rest)
        (⟨securityClass, first ++ second⟩ :: rest)
  | trans {listings middle others : List Listing} (before : Regrouped listings middle)
      (behind : Regrouped middle others) : Regrouped listings others

variable {listings others : List Listing} {securityClass : SecurityClass} {entity : String}

theorem names_cons {listing : Listing} :
    Names (listing :: listings) securityClass entity ↔
      (listing.securityClass = securityClass ∧ entity ∈ listing.entities) ∨
        Names listings securityClass entity := by
  simp [Names]

/-- Regrouping names the same entity types for the same classes. -/
theorem Regrouped.names_iff (regrouped : Regrouped listings others) :
    Names others securityClass entity ↔ Names listings securityClass entity := by
  induction regrouped with
  | reordered same => simp only [Names, same.mem_iff]
  | merged => simp only [names_cons, List.mem_append, and_or_left, or_assoc]
  | trans _ _ beforeIH behindIH => exact behindIH.trans beforeIH

end Listing

namespace Classifier

open Listing (Names Regrouped)

/-- The classifier that listings build, one after the other. -/
def ofListings (listings : List Listing) : Classifier :=
  listings.foldl (fun classifier listing =>
    classifier.withMembers listing.securityClass listing.entities) empty

variable {listings others : List Listing} {securityClass : SecurityClass} {entity : String}

/-- Members accumulate over the listings. -/
theorem mem_members_foldl (classifier : Classifier) :
    entity ∈ (listings.foldl (fun classifier listing =>
        classifier.withMembers listing.securityClass listing.entities) classifier).members
          securityClass ↔
      entity ∈ classifier.members securityClass ∨ Names listings securityClass entity := by
  induction listings generalizing classifier with
  | nil => simp [Names]
  | cons listing listings ih =>
      rw [List.foldl_cons, ih, mem_members_withMembers, Listing.names_cons, or_assoc,
        @eq_comm _ securityClass]

theorem mem_members_ofListings :
    entity ∈ (ofListings listings).members securityClass ↔ Names listings securityClass entity := by
  rw [ofListings, mem_members_foldl]
  simp [empty]

theorem contains_members_ofListings :
    ((ofListings listings).members securityClass).contains entity =
      decide (Names listings securityClass entity) := by
  rw [Bool.eq_iff_iff, decide_eq_true_iff, ← mem_members_ofListings]
  rfl

/-- The members of a class are looked up among the listings. -/
theorem classify_ofListings : (ofListings listings).classify entity =
    if entity = EntityType.partnerName then .sharedPartner
    else (priority.find? (Names listings · entity)).getD .tenantScoped := by
  simp only [classify, contains_members_ofListings]

/-- Only what is listed for a class counts. -/
theorem classify_congr (same : ∀ securityClass,
    Names others securityClass entity ↔ Names listings securityClass entity) :
    (ofListings others).classify entity = (ofListings listings).classify entity := by
  simp only [classify_ofListings, same]

/-- The class of an entity type is decided by the classes that it is listed for: the partner
entity has its own, then the first of four classes with a listing of the name wins, and an
unlisted entity type is tenant scoped.  The order of the listings and how they are put together
make no difference. -/
theorem classify_by_membership (listings : List Listing) (entity : String) :
    (ofListings listings).classify entity =
        (if entity = "res.partner" then .sharedPartner
        else if Names listings .noAccess entity then .noAccess
        else if Names listings .globalReadShared entity then .globalReadShared
        else if Names listings .tenantScopedReadShared entity then .tenantScopedReadShared
        else if Names listings .tenants entity then .tenants
        else .tenantScoped) ∧
      ∀ others, Regrouped listings others →
        (ofListings others).classify entity = (ofListings listings).classify entity := by
  constructor
  · rw [classify_ofListings, EntityType.partnerName]
    congr 1
    by_cases noAccess : Names listings .noAccess entity
    · simp [priority, noAccess]
    · by_cases globalRead : Names listings .globalReadShared entity
      · simp [priority, noAccess, globalRead]
      · by_cases scopedRead : Names listings .tenantScopedReadShared entity
        · simp [priority, noAccess, globalRead, scopedRead]
        · by_cases tenants : Names listings .tenants entity <;>
            simp [priority, noAccess, globalRead, scopedRead, tenants]
  · exact fun others regrouped => classify_congr fun _ => regrouped.names_iff

/-- An entity type that is listed for two classes belongs to the more restrictive one, also when
the listings for the other class are put into one. -/
theorem classify_by_membership_merged :
    let listings : List Listing :=
      [⟨.tenants, ["hr.leave"]⟩, ⟨.noAccess, ["hr.job"]⟩, ⟨.tenants, ["hr.job"]⟩]
    let others : List Listing := [⟨.tenants, ["hr.leave", "hr.job"]⟩, ⟨.noAccess, ["hr.job"]⟩]
    Regrouped listings others ∧ (ofListings listings).classify "hr.job" = .noAccess ∧
      (ofListings others).classify "hr.job" = .noAccess := by
  intro listings others
  have regrouped : Regrouped listings others :=
    .trans (.reordered ((List.Perm.swap _ _ []).cons _)) (.merged _ ["hr.leave"] ["hr.job"] _)
  obtain ⟨membership, invariant⟩ := classify_by_membership listings "hr.job"
  have noAccess : (ofListings listings).classify "hr.job" = .noAccess := by
    rw [membership]
    decide
  exact ⟨regrouped, noAccess, (invariant others regrouped).trans noAccess⟩

/-- The built-in classifier is built from a listing for each of the four classes. -/
example : builtin = ofListings [⟨.tenants, builtinTenants⟩,
    ⟨.tenantScopedReadShared, builtinTenantScopedReadShared⟩,
    ⟨.globalReadShared, builtinGlobalReadShared⟩, ⟨.noAccess, builtinNoAccess⟩] := rfl

end Classifier

end TenantGuard
