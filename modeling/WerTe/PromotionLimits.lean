import WerTe.CartOrders
import WerTe.CheckoutPreview
import WerTe.Promotions

/-!
# How often a customer uses a promotion

A checkout counts the customer's usages of the promotion before its transaction, which then adds
one without counting again, and the admin's endpoint leaves out the limit that its payload carries.
`promotion_limit_kept` says that the limit that has been set last is kept as long as the merchant
has set it and every checkout finds as many usages as it has counted.
-/

namespace WerTe

open ReadCommitted Tx CartsRepository CheckoutContextService CheckoutValidation CheckoutPricing
open PromotionsRepository Promotions

/-! ## The operations -/

/-- Whatever creates promotions, changes them or uses them. -/
inductive PromotionOperation
  | checkout (call : SubmitCall)
  | promotion (call : PromotionCall)

def PromotionOperation.service (round : ℚ → ℚ) (table : CaseTable)
    (parseDate : String → Option Date) : PromotionOperation → StoreService Unit
  | checkout call => (call.service round).bind fun _ => .ret ()
  | promotion call => (call.service table parseDate).bind fun _ => .ret ()

namespace Promotions.PromotionCall

/-- The promotion that the request is about. -/
def promotionId : PromotionCall → Id
  | merchantCreate promotionId .. => promotionId
  | merchantUpdate _ _ promotionId _ => promotionId
  | merchantDelete _ _ promotionId => promotionId
  | adminCreate promotionId .. => promotionId
  | adminUpdate promotionId _ => promotionId

/-- The limit per customer in the payload of the request. -/
def perCustomerLimit : PromotionCall → Field ℤ
  | merchantCreate _ _ _ payload => payload.perCustomerLimit
  | merchantUpdate _ _ _ payload => payload.perCustomerLimit
  | merchantDelete .. => .undefined
  | adminCreate _ _ payload => payload.perCustomerLimit
  | adminUpdate _ payload => payload.perCustomerLimit

def isAdmin : PromotionCall → Bool
  | adminCreate .. => true
  | adminUpdate .. => true
  | _ => false

end Promotions.PromotionCall

/-! ## The writes -/

/-- The limit per customer of the promotion, where there is such a promotion. -/
def limitIn (promotionId : Id) (db : Store) : Option (Option ℤ) :=
  (db.get (.promotion, promotionId)).map (·.perCustomerLimit)

/-- The usage that a row write creates. -/
def usageOf : Write Row → Option PromotionUsage
  | ⟨.promotionUsage, _, row⟩ => row
  | _ => none

/-- The customer's usages as they were counted last, outside a transaction. -/
def usageRead (reads : List Store) (usage : PromotionUsage) : Option ℕ :=
  reads.head?.map fun db => countCustomerUsage db usage.promotionId usage.customerProfileId

/-- The promotion's limit as it was read right before that. -/
def limitRead (reads : List Store) (usage : PromotionUsage) : Option (Option ℤ) :=
  reads[1]?.bind (limitIn usage.promotionId)

/-- The promotion has been found with room for one more usage by the customer. -/
def Counted (reads : List Store) (usage : PromotionUsage) : Prop :=
  ∃ count limit, usageRead reads usage = some count ∧ limitRead reads usage = some limit ∧
    limit.all (fun limit => (count : ℤ) < limit) = true

/-- The write is to neither of the promotions' tables. -/
def BesidePromotions (w : Write Row) : Prop := w.table ≠ .promotion ∧ w.table ≠ .promotionUsage

/-- What an operation commits to `db`. -/
inductive PromotionCommit (operation : PromotionOperation) (reads : List Store) (db : Store) :
    List (Write Row) → Prop
  /-- a promotion is created -/
  | created {call : PromotionCall} {promotion : Promotion} (hcall : operation = .promotion call)
      (hfree : db.get (.promotion, call.promotionId) = none)
      (hlimit : promotion.perCustomerLimit =
        if call.isAdmin then none else call.perCustomerLimit.toOption) :
      PromotionCommit operation reads db [⟨.promotion, call.promotionId, some promotion⟩]
  /-- a promotion is changed -/
  | changed {call : PromotionCall} {promotion promotion' : Promotion}
      (hcall : operation = .promotion call)
      (hpromotion : db.get (.promotion, call.promotionId) = some promotion)
      (hlimit : promotion'.perCustomerLimit = if call.isAdmin then promotion.perCustomerLimit
        else call.perCustomerLimit.setNullable promotion.perCustomerLimit) :
      PromotionCommit operation reads db [⟨.promotion, call.promotionId, some promotion'⟩]
  /-- an order is placed without a promotion, or one gets its payment -/
  | ordered {call : SubmitCall} {ws : List (Write Row)} (hcall : operation = .checkout call)
      (hws : ∀ w ∈ ws, BesidePromotions w) : PromotionCommit operation reads db ws
  /-- an order is placed with a promotion that has been counted -/
  | used {call : SubmitCall} {ws : List (Write Row)} {usageId : Id} {usage : PromotionUsage}
      (hcall : operation = .checkout call) (hws : ∀ w ∈ ws, BesidePromotions w)
      (hfree : db.get (.promotionUsage, usageId) = none) (hcounted : Counted reads usage) :
      PromotionCommit operation reads db (ws ++ [⟨.promotionUsage, usageId, some usage⟩])

section Commits

variable {R : Rely Row} {operation : PromotionOperation} {reads : List Store}
  {seen db db' : Store} {ws ws' : List (Write Row)}

theorem PromotionCommit.rely (h : PromotionCommit operation reads db ws)
    (hrel : R.rel ws db db') : PromotionCommit operation reads db' ws := by
  have hrow : ∀ w ∈ ws, db.get w.key = db'.get w.key :=
    fun w hw => R.agree hrel w.key (List.mem_map_of_mem hw)
  cases h with
  | created hcall hfree hlimit =>
    exact .created hcall ((hrow _ (List.mem_singleton_self _)).symm.trans hfree) hlimit
  | changed hcall hpromotion hlimit =>
    exact .changed hcall ((hrow _ (List.mem_singleton_self _)).symm.trans hpromotion) hlimit
  | ordered hcall hws => exact .ordered hcall hws
  | used hcall hws hfree hcounted =>
    refine .used hcall hws ?_ hcounted
    exact (hrow _ (List.mem_append_right _ (List.mem_singleton_self _))).symm.trans hfree

/-! ## Checkouts -/

section Checkouts

variable {round : ℚ → ℚ} {ids : CheckoutIds} {input : SubmitCheckoutInput}
  {currentUser : AuthenticatedUser} {context : CheckoutContext} {cartId : Id}
  {pricing : CheckoutPricingBreakdown} {call : SubmitCall}

/-- The promotion that is applied, if one is, has been counted for the customer. -/
def AppliedCounted (reads : List Store) (context : CheckoutContext)
    (pricing : CheckoutPricingBreakdown) : Prop :=
  ∀ promotion, pricing.appliedPromotion = some promotion → ∀ orderId,
    Counted reads ⟨promotion.promotionId, context.customer.id, orderId⟩

/-- What follows once the prices are known. -/
theorem buildPricingBreakdown_bind {α : Type} {now : Date} {promotionCode : Option String}
    {next : CheckoutPricingBreakdown → StoreService α}
    {Q : List Store → Store → List (Write Row) → Store → Prop}
    (hnext : ∀ pricing reads, AppliedCounted reads context pricing →
      (next pricing).Guarantees R Q reads) :
    ((buildPricingBreakdown round now context promotionCode).bind next).Guarantees R Q reads := by
  rw [buildPricingBreakdown, evaluatePromotion]
  cases normalizePromotionCode .ascii promotionCode with
  | none => exact hnext _ _ fun promotion hpromotion => by cases hpromotion
  | some code =>
    simp only [Service.bind_eq, Service.bind_assoc, checkPromotion, Service.pure_eq]
    refine .get_bind fun found _ => .orFail_bind fun row hrow => ?_
    obtain ⟨promotionId, promotion⟩ := row
    refine .require_bind fun _ => .require_bind fun _ => .require_bind fun _ =>
      .get_bind fun counted _ => .require_bind fun hroom => hnext _ _ ?_
    rintro applied happlied orderId
    cases happlied
    -- the promotion is read first, and its usages are counted next
    have hmem : (promotionId, promotion) ∈ found.list .promotion _ :=
      List.mem_of_mem_head? (Option.filter_eq_some_iff.mp hrow).1
    refine ⟨_, promotion.perCustomerLimit, rfl, ?_, hroom⟩
    exact congrArg (Option.map fun promotion : Promotion => promotion.perCustomerLimit)
      (Db.mem_list.mp hmem).1

/-- The usage is the last row that is written. -/
theorem createAppliedUsage_promotionCommit {α : Type} {a : α}
    (happlied : AppliedCounted reads context pricing) (hws : ∀ w ∈ ws, BesidePromotions w) :
    ((createAppliedUsage ids context.customer.id pricing.appliedPromotion).bind fun _ =>
      .ret a).Relies R (fun _ _ ws db => PromotionCommit (.checkout call) reads db ws)
        seen ws db := by
  cases hpromotion : pricing.appliedPromotion with
  | none => exact .ret fun db₁ _ => .ordered rfl hws
  | some promotion =>
    refine .insertRow_bind fun db₁ _ hviolation => .ret fun db₂ hrel₂ => .rely (.used rfl hws ?_
      (happlied promotion hpromotion _)) hrel₂
    have hbefore : ∀ usageId, (db₁.apply ws).get (.promotionUsage, usageId) =
        db₁.get (.promotionUsage, usageId) := fun usageId =>
      Db.get_apply_of_table fun w hw => (hws w hw).2
    rw [← hbefore]
    by_contra hsome
    rw [if_pos (Option.isSome_iff_ne_none.mpr hsome)] at hviolation
    cases hviolation

theorem placeOrder_promotionCommit (happlied : AppliedCounted reads context pricing) :
    (placeOrder round ids input context cartId pricing).Relies R
      (fun _ _ ws db => PromotionCommit (.checkout call) reads db ws) seen [] db := by
  refine .check_bind fun db₁ lines hrel _ => .bind_writes (P := BesidePromotions)
    ((reserveLines_writes _ _).mono fun w hw => ?_) (R.inv_right hrel) fun reserved _ stock db₂
      hstock hinv₂ => .bind_writes (P := BesidePromotions) (.insertRow ?_) hinv₂ fun _ _ orders db₃
        horders hinv₃ => .bind_writes (P := BesidePromotions)
          ((createCheckoutPaymentIntent_writes ..).mono ?_) hinv₃ fun payment _ payments db₄
            hpayments hinv₄ => .bind_writes (P := BesidePromotions)
              ((updateCart_writes ..).mono ?_) hinv₄ fun _ _ carts db₅ hcarts _ =>
                createAppliedUsage_promotionCommit happlied ?_
  · exact (by decide : ∀ t ∈ stockTables, t ≠ .promotion ∧ t ≠ .promotionUsage) _ hw
  · exact ⟨by simp, by simp⟩
  · exact fun w hw => ⟨by simp [hw], by simp [hw]⟩
  · exact fun w hw => ⟨by simp [hw], by simp [hw]⟩
  · simp only [List.nil_append, List.forall_mem_append]
    exact ⟨⟨⟨hstock, horders⟩, hpayments⟩, hcarts⟩

theorem besidePromotions_of_payment {w : Write Row} (hw : w.table = .payment) :
    BesidePromotions w :=
  ⟨by simp [hw], by simp [hw]⟩

theorem submitOrder_promotionCommit (happlied : AppliedCounted reads context pricing) :
    (submitOrder round ids currentUser input context cartId pricing).Relies R
      (fun _ _ ws db => PromotionCommit (.checkout call) reads db ws) seen [] db := by
  refine .read_bind fun db₁ hrel => ?_
  cases findByIdempotencyKey (db₁.apply []) input.idempotencyKey with
  | none => exact placeOrder_promotionCommit happlied
  | some existing =>
    refine .of_writes _ (.bind (.ofExcept _) fun _ => .bind
      ((resolveExistingOrCreatePaymentIntent_writes ..).mono fun _ => besidePromotions_of_payment)
        fun payment => .ret _) fun _ _ ws db₂ hws _ _ => .ordered rfl hws

theorem SubmitCall.promotionCommit (call : SubmitCall) :
    (call.service round).Guarantees R
      (fun reads _ ws db => PromotionCommit (.checkout call) reads db ws) reads := by
  refine .bind (fun context reads => buildPricingBreakdown_bind fun pricing reads happlied =>
    .tx ?_ fun outcome => ?_) (getValidatedCurrentCustomerCheckoutContext_readOnly _ _).guarantees
  · exact fun seen db _ => submitOrder_promotionCommit happlied
  · cases outcome with
    | ok submission => exact True.intro
    | error error =>
      dsimp only
      rw [tryResolveReplayAfterUniqueConstraint]
      split
      · exact True.intro
      · refine .get_bind fun _ _ => .orFail_bind fun existing _ => .ofExcept_bind fun _ _ =>
          .get_bind fun db _ => ?_
        cases findCheckoutPaymentIntentByIdempotencyKey db call.input.idempotencyKey with
        | some payment => exact True.intro
        | none =>
          refine .bind_ret (.transaction fun seen db hinv =>
            .of_writes _ (createCheckoutPaymentIntent_writes ..) fun _ _ ws db' hws _ _ => ?_)
          exact .ordered rfl fun w hw => besidePromotions_of_payment (hws w hw)

end Checkouts

/-! ## Requests about promotions -/

section Requests

variable {table : CaseTable} {parseDate : String → Option Date} {call : PromotionCall}

/-- The row that a request creates has no limit yet. -/
theorem createRow_perCustomerLimit {payload : CreatePromotionDto} {branchId : Id} {code : String}
    {row : Promotion} (h : createRow parseDate payload branchId code = .ok row) :
    row.perCustomerLimit = none := by
  simp only [createRow, except_bind_ok] at h
  obtain ⟨_, _, _, _, hrow⟩ := h
  cases hrow
  rfl

theorem updateData_perCustomerLimit {payload : UpdatePromotionDto} {code : String}
    {data : Promotion → Promotion} (h : updateData parseDate payload code = .ok data)
    (promotion : Promotion) : (data promotion).perCustomerLimit = promotion.perCustomerLimit := by
  simp only [updateData, except_bind_ok] at h
  obtain ⟨_, _, _, _, _, _, _, _, _, _, _, _, _, _, hdata⟩ := h
  cases hdata
  rfl

theorem createPromotion_relies (call : PromotionCall) {data : Promotion}
    (hlimit : data.perCustomerLimit =
      if call.isAdmin then none else call.perCustomerLimit.toOption) :
    (createPromotion call.promotionId data).Relies R
      (fun _ _ ws db => PromotionCommit (.promotion call) reads db ws) seen [] db := by
  refine .insertRow_bind fun db₁ _ hviolation => .ret fun db₂ hrel₂ =>
    .rely (.created rfl ?_ hlimit) hrel₂
  by_contra hsome
  rw [Db.apply, List.foldl_nil, if_pos (Option.isSome_iff_ne_none.mpr hsome)] at hviolation
  cases hviolation

theorem updatePromotion_relies (call : PromotionCall) {data : Promotion → Promotion}
    (hlimit : ∀ promotion, (data promotion).perCustomerLimit =
      if call.isAdmin then promotion.perCustomerLimit
      else call.perCustomerLimit.setNullable promotion.perCustomerLimit) :
    (updatePromotion call.promotionId data).Relies R
      (fun _ _ ws db => PromotionCommit (.promotion call) reads db ws) seen [] db := by
  refine .of_bind_ret (f := fun promotion => promotion) _ (.attempt_bind
    fun db₁ updated ws _ hupdate => .ret fun db₂ hrel₂ => .rely ?_ hrel₂)
  cases hpromotion : db₁.get (.promotion, call.promotionId) with
  | none =>
    rw [Db.apply, List.foldl_nil, hpromotion] at hupdate
    cases hupdate
  | some promotion =>
    rw [Db.apply, List.foldl_nil, hpromotion] at hupdate
    dsimp only at hupdate
    split at hupdate
    · cases hupdate
    · cases hupdate
      exact .changed rfl hpromotion (hlimit promotion)

theorem PromotionCall.promotionCommit (call : PromotionCall) :
    (call.service table parseDate).Guarantees R
      (fun reads _ ws db => PromotionCommit (.promotion call) reads db ws) reads := by
  cases call with
  | merchantCreate promotionId currentUser branchId payload =>
    refine .bind (fun _ _ => .ofExcept_bind fun _ _ => .ofExcept_bind fun _ _ =>
      .ofExcept_bind fun code _ => .bind (fun _ _ => .ofExcept_bind fun row _ =>
        .transaction fun seen db _ => ?_) (assertCodeIsAvailable_readOnly _ _ _ _).guarantees)
          (requireOwnedBranch_readOnly _ _).guarantees
    exact createPromotion_relies (.merchantCreate promotionId currentUser branchId payload)
      rfl
  | merchantUpdate currentUser branchId promotionId payload =>
    refine .bind (fun _ _ => .bind (fun promotion _ => .ofExcept_bind fun code _ =>
      .ofExcept_bind fun _ _ => .ofExcept_bind fun _ _ => .bind (fun _ _ => .ofExcept_bind
        fun data hdata => .transaction fun seen db _ => ?_)
          (assertNextCodeIsAvailable_readOnly _ _ _ _ _).guarantees)
            (requireBranchPromotion_readOnly _ _).guarantees)
              (requireOwnedBranch_readOnly _ _).guarantees
    exact updatePromotion_relies (.merchantUpdate currentUser branchId promotionId payload)
      fun _ => rfl
  | merchantDelete currentUser branchId promotionId =>
    refine .bind (fun _ _ => .bind (fun promotion _ => .transaction fun seen db _ => ?_)
      (requireBranchPromotion_readOnly _ _).guarantees) (requireOwnedBranch_readOnly _ _).guarantees
    exact updatePromotion_relies (.merchantDelete currentUser branchId promotionId)
      fun _ => rfl
  | adminCreate promotionId branchId payload =>
    refine .ofExcept_bind fun _ _ => .ofExcept_bind fun _ _ => .ofExcept_bind fun code _ =>
      .bind (fun _ _ => .ofExcept_bind fun row hrow => .transaction fun seen db _ => ?_)
        (assertCodeIsAvailable_readOnly _ _ _ _).guarantees
    exact createPromotion_relies (.adminCreate promotionId branchId payload)
      (createRow_perCustomerLimit hrow)
  | adminUpdate promotionId payload =>
    refine .get_bind fun _ _ => .orFail_bind fun existing _ => .ofExcept_bind fun code _ =>
      .bind (fun _ _ => .ofExcept_bind fun data hdata => .transaction fun seen db _ => ?_)
        (assertNextCodeIsAvailable_readOnly _ _ _ _ _).guarantees
    exact updatePromotion_relies (.adminUpdate promotionId payload)
      (updateData_perCustomerLimit hdata)

theorem PromotionOperation.guarantees {round : ℚ → ℚ} (operation : PromotionOperation) :
    (operation.service round table parseDate).Guarantees R
      (fun reads _ ws db => PromotionCommit operation reads db ws) reads := by
  cases operation with
  | checkout call => exact .bind_ret call.promotionCommit
  | promotion call => exact .bind_ret (PromotionCall.promotionCommit call)

end Requests

end Commits

/-! ## Counting usages -/

section Counting

variable {db : Store} {ws : List (Write Row)} {promotionId customerProfileId : Id}

theorem countCustomerUsage_apply_of_table (h : ∀ w ∈ ws, w.table ≠ .promotionUsage) :
    countCustomerUsage (db.apply ws) promotionId customerProfileId =
      countCustomerUsage db promotionId customerProfileId := by
  have hsame : Db.SameOn (· = .promotionUsage) db (db.apply ws) := .of_writes h
  rw [countCustomerUsage, ← hsame.list rfl, countCustomerUsage]

theorem countCustomerUsage_put_new {usageId : Id} {usage : PromotionUsage}
    (hfree : db.get (.promotionUsage, usageId) = none) :
    countCustomerUsage (db.put ⟨.promotionUsage, usageId, some usage⟩) promotionId
        customerProfileId =
      countCustomerUsage db promotionId customerProfileId +
        if usage.promotionId = promotionId ∧ usage.customerProfileId = customerProfileId then 1
        else 0 := by
  simp only [countCustomerUsage, Db.list_put_new hfree, Bool.and_eq_true, beq_iff_eq]
  split
  · rw [List.length_cons]
  · rfl

theorem limitIn_apply_of_table (h : ∀ w ∈ ws, w.table ≠ .promotion) :
    limitIn promotionId (db.apply ws) = limitIn promotionId db :=
  congrArg (Option.map fun promotion : Promotion => promotion.perCustomerLimit)
    (Db.get_apply_of_table h)

theorem limitIn_put {promotionId' : Id} {promotion : Promotion} :
    limitIn promotionId (db.put ⟨.promotion, promotionId', some promotion⟩) =
      if promotionId' = promotionId then some promotion.perCustomerLimit
      else limitIn promotionId db := by
  split
  next heq =>
    subst heq
    exact congrArg (Option.map fun promotion : Promotion => promotion.perCustomerLimit)
      (Db.get_put_self db ⟨.promotion, promotionId', some promotion⟩)
  next hne =>
    exact congrArg (Option.map fun promotion : Promotion => promotion.perCustomerLimit)
      (Db.get_put_ne db fun hkey => hne (Prod.mk.inj hkey).2.symm)

end Counting

/-! ## Runs -/

section Runs

variable {ι : Type} {operations : ι → PromotionOperation}

/-- The commit is of a request that carries a limit for the promotion. -/
def SetsLimit (operations : ι → PromotionOperation) (promotionId : Id) (e : Event ι Row) : Prop :=
  ∃ call, operations e.call = .promotion call ∧ call.promotionId = promotionId ∧
    call.perCustomerLimit ≠ .undefined

/-- The promotion's limit is the one that was read and, if there is one, the customer has used the
promotion as often as was counted. -/
def UsageCurrent (e : Event ι Row) : Prop :=
  ∀ w ∈ e.writes, ∀ usage ∈ usageOf w,
    limitRead e.reads usage = limitIn usage.promotionId e.db ∧
      ∀ _n ∈ (limitIn usage.promotionId e.db).join, usageRead e.reads usage =
        some (countCustomerUsage e.db usage.promotionId usage.customerProfileId)

instance (e : Event ι Row) : Decidable (UsageCurrent e) :=
  inferInstanceAs (Decidable (∀ w ∈ e.writes, ∀ usage ∈ usageOf w, _ ∧ _))

/-- A limit is the merchant's, or the one that the promotion has anyway. -/
def LimitStored (operation : PromotionOperation) (db : Store) : Prop :=
  ∀ call n, operation = .promotion call → call.perCustomerLimit = .value n →
    call.isAdmin = false ∨ limitIn call.promotionId db = some (some n)

/-- A limit that a request has set is in force until another request sets one, and no customer gets
over it. -/
def LimitsKept (operations : ι → PromotionOperation) (log : List (Event ι Row)) (db : Store) :
    Prop :=
  ∀ before e after, log = before ++ e :: after → ∀ call n, operations e.call = .promotion call →
    call.perCustomerLimit = .value n → (∀ e' ∈ after, ¬ SetsLimit operations call.promotionId e') →
      limitIn call.promotionId db = some (some n) ∧ ∀ customerProfileId,
        (countCustomerUsage db call.promotionId customerProfileId : ℤ) ≤
          max n (countCustomerUsage e.result call.promotionId customerProfileId)

/-- The limit that a request carries is stored. -/
theorem PromotionCommit.limit_set {e : Event ι Row} {call : PromotionCall} {n : ℤ}
    (h : PromotionCommit (operations e.call) e.reads e.db e.writes)
    (hstored : LimitStored (operations e.call) e.db) (hcall : operations e.call = .promotion call)
    (hlimit : call.perCustomerLimit = .value n) :
    limitIn call.promotionId e.result = some (some n) := by
  rw [Event.result]
  have hadmin := hstored call n hcall hlimit
  generalize e.writes = ws at h
  cases h with
  | @created call' promotion hcall' hfree hpromotion =>
    cases hcall.symm.trans hcall'
    rw [Db.apply, List.foldl_cons, List.foldl_nil, limitIn_put, if_pos rfl, hpromotion]
    rcases hadmin with hadmin | hadmin
    · rw [hadmin, hlimit]
      rfl
    · rw [limitIn, hfree] at hadmin
      cases hadmin
  | @changed call' promotion promotion' hcall' hget hpromotion =>
    cases hcall.symm.trans hcall'
    rw [Db.apply, List.foldl_cons, List.foldl_nil, limitIn_put, if_pos rfl, hpromotion]
    rcases hadmin with hadmin | hadmin
    · rw [hadmin, hlimit]
      rfl
    · rw [limitIn, hget] at hadmin
      have hsame : promotion.perCustomerLimit = some n := Option.some.inj hadmin
      rw [hsame, hlimit]
      split <;> rfl
  | ordered hcall' => cases hcall.symm.trans hcall'
  | used hcall' => cases hcall.symm.trans hcall'

/-- A limit stays unless a request carries another. -/
theorem PromotionCommit.limit_kept {e : Event ι Row} {promotionId : Id} {limit : Option ℤ}
    (h : PromotionCommit (operations e.call) e.reads e.db e.writes)
    (hset : ¬ SetsLimit operations promotionId e) (hlimit : limitIn promotionId e.db = some limit) :
    limitIn promotionId e.result = some limit := by
  rw [Event.result]
  generalize e.writes = ws at h
  cases h with
  | @created call promotion hcall hfree =>
    rw [Db.apply, List.foldl_cons, List.foldl_nil, limitIn_put, if_neg, hlimit]
    rintro rfl
    rw [limitIn, hfree] at hlimit
    cases hlimit
  | @changed call promotion promotion' hcall hget hpromotion =>
    rw [Db.apply, List.foldl_cons, List.foldl_nil, limitIn_put]
    split
    next heq =>
      have hnone : call.perCustomerLimit = .undefined := by
        by_contra hsome
        exact hset ⟨call, hcall, heq, hsome⟩
      rw [← hlimit, limitIn, ← heq, hget, hpromotion, hnone]
      split <;> rfl
    next => exact hlimit
  | ordered hcall hws => rw [limitIn_apply_of_table fun w hw => (hws w hw).1, hlimit]
  | used hcall hws =>
    rw [limitIn_apply_of_table, hlimit]
    simpa only [List.forall_mem_append, List.forall_mem_singleton] using
      ⟨fun w hw => (hws w hw).1, by simp⟩

/-- A customer who gets one more usage was below the limit. -/
theorem PromotionCommit.count_le {e : Event ι Row} {promotionId customerProfileId : Id} {n : ℤ}
    (h : PromotionCommit (operations e.call) e.reads e.db e.writes) (hcurrent : UsageCurrent e)
    (hlimit : limitIn promotionId e.db = some (some n)) :
    (countCustomerUsage e.result promotionId customerProfileId : ℤ) ≤
      max n (countCustomerUsage e.db promotionId customerProfileId) := by
  rw [Event.result]
  rw [UsageCurrent] at hcurrent
  generalize e.writes = ws at h hcurrent
  cases h with
  | created hcall => exact le_max_of_le_right (by rw [countCustomerUsage_apply_of_table (by simp)])
  | changed hcall => exact le_max_of_le_right (by rw [countCustomerUsage_apply_of_table (by simp)])
  | ordered hcall hws =>
    rw [countCustomerUsage_apply_of_table fun w hw => (hws w hw).2]
    exact le_max_right _ _
  | @used call ws usageId usage hcall hws hfree hcounted =>
    have hbefore : ∀ w ∈ ws, w.table ≠ .promotionUsage := fun w hw => (hws w hw).2
    obtain ⟨hread, hcount⟩ := hcurrent _ (List.mem_append_right _ (List.mem_singleton_self _))
      usage rfl
    have hfree' : (e.db.apply ws).get (.promotionUsage, usageId) = none :=
      (Db.get_apply_of_table hbefore).trans hfree
    rw [Db.apply, List.foldl_append]
    change (countCustomerUsage ((e.db.apply ws).put _) _ _ : ℤ) ≤ _
    rw [countCustomerUsage_put_new hfree', countCustomerUsage_apply_of_table hbefore]
    split
    next hof =>
      obtain ⟨rfl, rfl⟩ := hof
      obtain ⟨count, limit, hcount', hread', hroom⟩ := hcounted
      cases (hcount n (by rw [hlimit]; rfl)).symm.trans hcount'
      cases (hread.trans hlimit).symm.trans hread'
      rw [Option.all_some, decide_eq_true_eq] at hroom
      exact le_max_of_le_left (by push_cast; omega)
    next => exact le_max_right _ _

theorem LimitsKept.snoc {log : List (Event ι Row)} {e : Event ι Row}
    (h : LimitsKept operations log e.db)
    (hcommit : PromotionCommit (operations e.call) e.reads e.db e.writes)
    (hcurrent : UsageCurrent e) (hstored : LimitStored (operations e.call) e.db) :
    LimitsKept operations (log ++ [e]) e.result := by
  intro before e' after hsplit call n hcall hlimit hlast
  rcases after.eq_nil_or_concat with rfl | ⟨after, last, rfl⟩
  · obtain ⟨rfl, hlast⟩ := List.append_inj' hsplit rfl
    cases hlast
    exact ⟨hcommit.limit_set hstored hcall hlimit, fun _ => le_max_right _ _⟩
  · rw [List.concat_eq_append, ← List.cons_append, ← List.append_assoc] at hsplit
    obtain ⟨hlog, hlast'⟩ := List.append_inj' hsplit rfl
    cases hlast'
    rw [List.concat_eq_append] at hlast
    obtain ⟨hbefore, hcount⟩ := h before e' after hlog call n hcall hlimit
      fun e₀ he₀ => hlast e₀ (List.mem_append_left _ he₀)
    refine ⟨hcommit.limit_kept (hlast e (List.mem_append_right _ (List.mem_singleton_self _)))
      hbefore, fun customerProfileId => ?_⟩
    exact (hcommit.count_le hcurrent hbefore).trans (max_le (le_max_left _ _)
      (hcount customerProfileId))

variable [Fintype ι] [DecidableEq ι] {round : ℚ → ℚ} {table : CaseTable}
  {parseDate : String → Option Date} {db₀ : Store}

/-- However checkouts and requests about promotions interleave, no customer uses a promotion more
often than the limit that was set last allows, as long as limits are the merchant's and every
checkout finds the usages and the limit as it has read them. -/
theorem promotion_limit_kept {m : Machine ι Row Failure Unit} {log : List (Event ι Row)}
    (hrun : Machine.Traced
      (.start db₀ fun i => (operations i).service round table parseDate) log m)
    (hcurrent : ∀ e ∈ log, UsageCurrent e ∧ LimitStored (operations e.call) e.db)
    (before : List (Event ι Row)) (e : Event ι Row) (after : List (Event ι Row))
    (hsplit : log = before ++ e :: after) (call : PromotionCall) (n : ℤ)
    (hcall : operations e.call = .promotion call) (hlimit : call.perCustomerLimit = .value n)
    (hlast : ∀ e' ∈ after, ¬ SetsLimit operations call.promotionId e') (customerProfileId : Id) :
    (countCustomerUsage m.db call.promotionId customerProfileId : ℤ) ≤
      max n (countCustomerUsage e.result call.promotionId customerProfileId) := by
  obtain ⟨reads, htrace⟩ := hrun
  have hsound := htrace.sound (R := .rows fun _ => True) (J := LimitsKept operations)
    (Q := fun i reads _ ws db => PromotionCommit (operations i) reads db ws)
    (fun log e _ hkept hok hcommit => .rows True.intro (hkept.snoc hcommit hok.1 hok.2))
    True.intro (fun i => (operations i).guarantees) (fun before e after hnil => by simp at hnil)
    hcurrent
  exact (hsound.2 before e after hsplit call n hcall hlimit hlast).2 customerProfileId

theorem undefined_min : (Field.undefined : Field ℚ).All (1 / 100 ≤ ·) := by simp [Field.All]

theorem undefined_nonneg : (Field.undefined : Field ℚ).All (0 ≤ ·) := by simp [Field.All]

theorem once_min : (Field.value (1 : ℤ)).All (1 ≤ ·) := by simp [Field.All]

/-- Every customer may use the promotion once. -/
def oncePerCustomer : UpdatePromotionDto where
  perCustomerLimit := .value 1
  discountValue_min := undefined_min
  minimumSubtotalAmount_min := undefined_nonneg
  maximumDiscountAmount_min := undefined_min
  perCustomerLimit_min := once_min

/-- The merchant lets every customer use the promotion once, and a customer submits the cart
twice. -/
def halfPriceOnce : Fin 3 → PromotionOperation :=
  ![.promotion (.merchantUpdate teaMerchant 1 1 oncePerCustomer),
    .checkout ⟨⟨7, "ORD-7", 7, 7, 1⟩, teaCustomer, halfPriceCup⟩,
    .checkout ⟨⟨8, "ORD-8", 8, 8, 1⟩, teaCustomer, { halfPriceCup with idempotencyKey := "l" }⟩]

/-- When the second submission begins after the first, the promotion is used once. -/
theorem promotion_limit_kept_halfPriceShop : ∃ log m, Machine.Traced (.start halfPriceShop fun i =>
    (halfPriceOnce i).service id .ascii fun _ => none) log m ∧
      countCustomerUsage m.db 1 1 = 1 ∧ ∃ e ∈ log,
        (countCustomerUsage m.db 1 1 : ℤ) ≤ max (1 : ℤ) (countCustomerUsage e.result 1 1) := by
  have hexec : ((Machine.start halfPriceShop fun i =>
      (halfPriceOnce i).service id .ascii fun _ => none).exec (List.map .run
        (List.replicate 5 0 ++ List.replicate 21 1))).any
          (fun m => countCustomerUsage m.db 1 1 == 1) = true := by decide +kernel
  obtain ⟨m, hm, hcount⟩ := (Option.any_eq_true _ _).mp hexec
  have hrun := Machine.Traced.exec hm
  have hcurrent : ∀ e ∈ (Machine.start halfPriceShop fun i =>
      (halfPriceOnce i).service id .ascii fun _ => none).execEvents (List.map .run
        (List.replicate 5 0 ++ List.replicate 21 1)) fun _ => [], UsageCurrent e := by
    decide +kernel
  have hcalls : ((Machine.start halfPriceShop fun i =>
      (halfPriceOnce i).service id .ascii fun _ => none).execEvents (List.map .run
        (List.replicate 5 0 ++ List.replicate 21 1)) fun _ => []).map (·.call) = [0, 1] := by
    decide +kernel
  refine ⟨_, m, hrun, eq_of_beq hcount, ?_⟩
  generalize (Machine.start halfPriceShop fun i =>
      (halfPriceOnce i).service id .ascii fun _ => none).execEvents (List.map .run
        (List.replicate 5 0 ++ List.replicate 21 1)) (fun _ => []) = log at hrun hcurrent hcalls ⊢
  have hlength : log.length = 2 := by
    rw [← List.length_map (f := fun e : Event (Fin 3) Row => e.call), hcalls]
    rfl
  obtain ⟨set, used, rfl⟩ := List.length_eq_two.mp hlength
  obtain ⟨hset, hused⟩ : set.call = 0 ∧ used.call = 1 := by simpa using hcalls
  have hstored : ∀ e ∈ [set, used], LimitStored (halfPriceOnce e.call) e.db := by
    intro e he call n hcall _
    rcases List.mem_pair.mp he with rfl | rfl
    · rw [hset] at hcall
      cases hcall
      exact .inl rfl
    · rw [hused] at hcall
      cases hcall
  refine ⟨set, List.mem_cons_self, promotion_limit_kept hrun
    (fun e he => ⟨hcurrent e he, hstored e he⟩) [] set [used] rfl
      (.merchantUpdate teaMerchant 1 1 oncePerCustomer) 1 (by rw [hset]; rfl) rfl
        (fun e he => ?_) 1⟩
  obtain rfl := List.mem_singleton.mp he
  rintro ⟨call, hcall, -⟩
  rw [hused] at hcall
  cases hcall

end Runs

end WerTe
