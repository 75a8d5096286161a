import GrammarConversion.Proofs.NameSupply
import GrammarConversion.Proofs.LexerGrammar.StoredRule

/-!
# Requests for names

A name for a token without a label is searched for twice: the supply passes over reserved names, and
the lexer over those that rules have.  As written down, both searches go on until a name is free
(`Search`), and nothing in them says that there will be one.

They end, since numbers are not given again.  The reserved names from a number on are fewer with
each number that is passed over (`search_next`).  The names that the supply gives are all different,
so there are not enough rules for them (`search_drawUnused`).

**`requests_fresh`: names can be asked for without end.**  A `Session` is a lexer and a supply that
others ask for names while rules are added.  The supply keeps account of the requests
(`Account`), so what is said of them holds of those that come from the lexer, too.
-/

namespace GrammarConversion.Antlr.LexerGrammar

/-! ## Searches without a bound -/

/-- **The search for a name that is not taken.**  Names are drawn, however many it takes. -/
inductive Search {Names : Type} (draw : Names → String × Names) (taken : String → Prop) :
    Names → String × Names → Prop
  | ends {names : Names} (hfree : ¬taken (draw names).1) : Search draw taken names (draw names)
  | goesOn {names : Names} {drawn : String × Names} (htaken : taken (draw names).1)
      (hrest : Search draw taken (draw names).2 drawn) : Search draw taken names drawn

section Searches

variable {Names : Type} {draw : Names → String × Names} {taken : String → Prop} {names : Names}
  {drawn drawn' : String × Names}

lemma Search.unique (h : Search draw taken names drawn) (h' : Search draw taken names drawn') :
    drawn' = drawn := by
  induction h with
  | ends hfree =>
      cases h' with
      | ends => rfl
      | goesOn htaken => exact absurd htaken hfree
  | goesOn htaken _ ih =>
      cases h' with
      | ends hfree => exact absurd htaken hfree
      | goesOn _ hrest => exact ih hrest

/-- **A search that ends has one outcome.** -/
lemma Search.iff (h : Search draw taken names drawn) :
    Search draw taken names drawn' ↔ drawn' = drawn :=
  ⟨h.unique, fun hsame => hsame ▸ h⟩

/-- A bounded search that ends with a free name needs no bound. -/
lemma search_of_free {isTaken : String → Bool} :
    ∀ (more : Nat) (names : Names), isTaken (drawUnused draw isTaken more names).1 = false →
      Search draw (fun name => isTaken name = true) names (drawUnused draw isTaken more names)
  | 0, names, hfree => .ends (by simpa [drawUnused] using hfree)
  | more + 1, names, hfree => by
      rw [drawUnused] at hfree ⊢
      split at hfree
      · rename_i htaken
        rw [if_pos htaken]
        exact .goesOn htaken (search_of_free more (draw names).2 hfree)
      · rename_i hnot
        rw [if_neg hnot]
        exact .ends hnot

end Searches

/-- The names that are left after an addition are those from before, or what a search leaves. -/
lemma Adding.names_cases {Names : Type} {lexer lexer' : LexerGrammar} {mode : String}
    {rule : Rule} {names names' : Names} {draw? : Option (Names → String × Names)}
    {result : Except Failure (Option Rule)}
    (h : Adding lexer mode rule names draw? lexer' names' result) :
    names' = names ∨ ∃ draw isTaken more, draw? = some draw ∧
      names' = (drawUnused draw isTaken more names).2 := by
  cases h with
  | named => exact .inl rfl
  | duplicate => exact .inl rfl
  | unnamed => exact .inl rfl
  | drawn _ hdraw hdrawn => exact .inr ⟨_, _, _, hdraw, congrArg Prod.snd hdrawn⟩

end GrammarConversion.Antlr.LexerGrammar

namespace GrammarConversion.Conversion

open Antlr
open LexerGrammar
open Model
open NameSupply

namespace NameSupply

/-- The name with the next number of a kind, reserved or not. -/
def ticket (kind : ProductionKind) (supply : NameSupply) : String × NameSupply :=
  (numbered kind (supply.counters kind),
    { supply with
      counters := fun other =>
        if other = kind then supply.counters kind + 1 else supply.counters other })

variable {kind : ProductionKind}

lemma search_of_freeNumber {reserved : List String} :
    ∀ (more : Nat) (supply : NameSupply),
      numbered kind (freeNumber reserved kind more (supply.counters kind)) ∉ reserved →
      Search (ticket kind) (· ∈ reserved) supply
        (numbered kind (freeNumber reserved kind more (supply.counters kind)),
          { supply with
            counters := fun other =>
              if other = kind then freeNumber reserved kind more (supply.counters kind) + 1
              else supply.counters other })
  | 0, supply, hfree => .ends hfree
  | more + 1, supply, hfree => by
      rw [freeNumber] at hfree ⊢
      split at hfree
      · rename_i hreserved
        rw [if_pos hreserved]
        have hnext : (ticket kind supply).2.counters kind = supply.counters kind + 1 := if_pos rfl
        have hothers : ∀ number, (fun other => if other = kind then number
            else (ticket kind supply).2.counters other)
              = fun other => if other = kind then number else supply.counters other := by
          intro number
          funext other
          by_cases hother : other = kind <;> simp [ticket, hother]
        have hrest := search_of_freeNumber more (ticket kind supply).2 (by rwa [hnext])
        rw [hnext, hothers] at hrest
        exact .goesOn hreserved hrest
      · rename_i hnot
        rw [if_neg hnot]
        exact .ends hnot

/-- **The search for a name that is not reserved ends,** with the name that the supply gives. -/
lemma search_next (supply : NameSupply) (kind : ProductionKind) :
    Search (ticket kind) (· ∈ supply.reserved) supply (supply.next kind) :=
  search_of_freeNumber _ _ (freeNumber_notMem supply.reserved kind (supply.counters kind))

/-- **The search for a name that no rule has ends,** with the name that the lexer draws. -/
lemma search_drawUnused (supply : NameSupply) (kind : ProductionKind) (lexer : LexerGrammar) :
    Search (fun names : NameSupply => names.next kind) (· ∈ lexer.rules.map Rule.name) supply
      (drawUnused (fun names => names.next kind) (fun name => (lexer.ruleNamed? name).isSome)
        lexer.rules.length supply) := by
  have hsearch : Search (fun names : NameSupply => names.next kind)
      (fun name => (lexer.ruleNamed? name).isSome = true) supply _ :=
    search_of_free _ _ (drawUnused_next supply kind lexer).free
  simpa only [isSome_ruleNamed?_iff] using hsearch

end NameSupply

/-! ## Accounts -/

/-- **A request for a name:** its kind, and the supply that is asked. -/
structure NameRequest where
  kind : ProductionKind
  supply : NameSupply

namespace NameRequest

def name (request : NameRequest) : String :=
  (request.supply.next request.kind).1

/-- The supply afterwards. -/
def rest (request : NameRequest) : NameSupply :=
  (request.supply.next request.kind).2

end NameRequest

/-- A supply that keeps account of the requests. -/
structure Account where
  supply : NameSupply
  requests : List NameRequest := []

namespace Account

def next (account : Account) (kind : ProductionKind) : String × Account :=
  let given := account.supply.next kind
  (given.1, ⟨given.2, account.requests ++ [⟨kind, account.supply⟩]⟩)

/-- **Whether an account is one of a supply,** with all requests that there have been. -/
inductive Follows (start : NameSupply) : Account → Prop
  | opened : Follows start { supply := start }
  | asked {account : Account} (kind : ProductionKind) (h : Follows start account) :
      Follows start (account.next kind).2

variable {start : NameSupply} {account : Account} {kind : ProductionKind}

lemma Follows.gives (h : Follows start account) :
    Gives start (account.requests.map NameRequest.name) account.supply := by
  induction h with
  | opened => exact .nil start
  | @asked account kind _ ih =>
      have hgives := ih.append (.cons kind (.nil (account.supply.next kind).2))
      simpa [next, NameRequest.name] using hgives

lemma Follows.reserved_eq (h : Follows start account) {request : NameRequest}
    (hrequest : request ∈ account.requests) : request.supply.reserved = start.reserved := by
  induction h with
  | opened => simp at hrequest
  | asked kind hbefore ih =>
      rcases List.mem_append.mp hrequest with hearlier | hlast
      · exact ih hearlier
      · rw [List.mem_singleton.mp hlast]
        exact hbefore.gives.reserved_eq

lemma Follows.drawUnused (isTaken : String → Bool) :
    ∀ (more : Nat) {account : Account}, Follows start account →
      Follows start (LexerGrammar.drawUnused (fun names => names.next kind) isTaken more account).2
  | 0, _, h => .asked kind h
  | more + 1, account, h => by
      rw [LexerGrammar.drawUnused]
      split
      · exact Follows.drawUnused isTaken more (.asked kind h)
      · exact .asked kind h

/-- A search is the same with and without an account. -/
lemma drawUnused_eq (isTaken : String → Bool) (more : Nat) (account : Account) :
    let kept := LexerGrammar.drawUnused (fun names => names.next kind) isTaken more account
    (kept.1, kept.2.supply)
      = LexerGrammar.drawUnused (fun names => names.next kind) isTaken more account.supply := by
  induction more generalizing account with
  | zero => rfl
  | succ more ih =>
      simp only [LexerGrammar.drawUnused]
      have hname : (account.next kind).1 = (account.supply.next kind).1 := rfl
      rw [hname]
      split
      · exact ih (account.next kind).2
      · rfl

end Account

/-! ## Sessions -/

/-- **A lexer and a supply of names** in use. -/
structure Session where
  lexer : LexerGrammar
  account : Account

namespace Session

/-- What may happen in a session. -/
inductive Event : Type 1 where
  /-- The supply is asked for a name. -/
  | next (kind : ProductionKind)
  /-- A rule is added, which gets its name from the supply if it has none. -/
  | addRule (mode : String) (rule : Rule) (kind : ProductionKind)
  /-- The lexer is changed without the supply: a rule may be added, with any source of names. -/
  | call (call : Call)

/-- The session after an event, also when it fails. -/
def step (session : Session) : Event → Session
  | .next kind => { session with account := (session.account.next kind).2 }
  | .addRule mode rule kind =>
    let added := session.lexer.addRule mode rule session.account (some fun names => names.next kind)
    ⟨added.lexer, added.names⟩
  | .call call => { session with lexer := call.run session.lexer }

/-- **The session after some events.** -/
def run (session : Session) (events : List Event) : Session :=
  events.foldl step session

variable {session : Session} {start : NameSupply}

/-- **An event** goes on from the account as it is. -/
lemma follows_step (h : session.account.Follows start) (event : Event) :
    (session.step event).account.Follows start := by
  cases event with
  | next kind => exact .asked kind h
  | addRule mode rule kind =>
      rcases Adding.names_cases (addRule_cases session.lexer mode rule session.account
        (some fun names => names.next kind)) with hkept | ⟨draw, isTaken, more, hdraw, hdrawn⟩
      · rwa [step, hkept]
      · cases hdraw
        rw [step, hdrawn]
        exact h.drawUnused isTaken more
  | call => exact h

lemma follows_run (h : session.account.Follows start) (events : List Event) :
    (session.run events).account.Follows start := by
  induction events generalizing session with
  | nil => exact h
  | cons event events ih => exact ih (follows_step h event)

/-- **An addition is the same** with and without an account. -/
lemma addRule_account (lexer : LexerGrammar) (mode : String) (rule : Rule) (kind : ProductionKind)
    (account : Account) :
    let kept := lexer.addRule mode rule account (some fun names => names.next kind)
    let plain := lexer.addRule mode rule account.supply (some fun names => names.next kind)
    kept.lexer = plain.lexer ∧ kept.names.supply = plain.names ∧ kept.log = plain.log ∧
      kept.result = plain.result := by
  simp only [addRule]
  split
  · exact ⟨rfl, rfl, rfl, rfl⟩
  · split
    · exact ⟨rfl, rfl, rfl, rfl⟩
    · rw [← Account.drawUnused_eq]
      exact ⟨rfl, rfl, rfl, rfl⟩

/-- **A rule for which a name is drawn** is settled under that name. -/
lemma addRule_of_unnamed {lexer : LexerGrammar} {mode : String} {rule : Rule}
    {kind : ProductionKind} {supply : NameSupply} (hname : rule.name = "")
    (hindexed : (((lexer.addMode mode).mode? mode).bind fun found => found.indexed? rule.body)
      = none) :
    ∃ drawn, (∀ other, Search (fun names : NameSupply => names.next kind)
        (· ∈ lexer.rules.map Rule.name) supply other ↔ other = drawn) ∧
      let added := lexer.addRule mode rule supply (some fun names => names.next kind)
      let settled := (lexer.addMode mode).settle mode { rule with name := ruleName drawn.1 }
      added.names = drawn.2 ∧ added.lexer = settled.lexer ∧ added.result = settled.result := by
  have hsearch := search_drawUnused supply kind (lexer.addMode mode)
  rw [rules_addMode] at hsearch
  refine ⟨_, fun _ => hsearch.iff, ?_⟩
  simp only [addRule, hname, ne_eq, not_true_eq_false, if_false, hindexed, rules_addMode, and_self]

end Session

/-- **Names can be asked for without end.**  Take any supply of names and any lexer, and let names
be asked for and rules be added, in any order and with any kinds.  The account has all requests that
there have been.

* The search for a name has one outcome, the name that is given.  It is not reserved.  The next
  number of its kind has gone up, and those of other kinds are as before.
* No name is given twice.
* An addition does what it would do without an account.  If a name is drawn for the rule, the search
  for one that no rule of any mode has comes to one outcome, too, and with that name the addition
  goes on. -/
theorem requests_fresh (supply : NameSupply) (lexer : LexerGrammar) (events : List Session.Event) :
    let session := Session.run ⟨lexer, { supply := supply }⟩ events
    let requests := session.account.requests
    session.account.Follows supply ∧
      (∀ request ∈ requests,
        (∀ given, Search (ticket request.kind) (· ∈ supply.reserved) request.supply given ↔
          given = (request.name, request.rest)) ∧
        request.name ∉ supply.reserved ∧
        request.supply.counters request.kind < request.rest.counters request.kind ∧
        ∀ other, other ≠ request.kind →
          request.rest.counters other = request.supply.counters other) ∧
      (requests.map NameRequest.name).Nodup ∧
      ∀ mode rule kind,
        let after := session.step (.addRule mode rule kind)
        let added := session.lexer.addRule mode rule session.account.supply
          (some fun names => names.next kind)
        after.lexer = added.lexer ∧ after.account.supply = added.names ∧
          (rule.name = "" →
            (((session.lexer.addMode mode).mode? mode).bind fun found =>
              found.indexed? rule.body) = none →
            ∃ drawn, (∀ other, Search (fun names : NameSupply => names.next kind)
                (· ∈ session.lexer.rules.map Rule.name) session.account.supply other ↔
                  other = drawn) ∧
              let settled := (session.lexer.addMode mode).settle mode
                { rule with name := ruleName drawn.1 }
              added.names = drawn.2 ∧ added.lexer = settled.lexer ∧
                added.result = settled.result) := by
  intro session requests
  have hfollows : session.account.Follows supply := Session.follows_run .opened events
  refine ⟨hfollows, fun request hrequest => ?_, hfollows.gives.nodup, fun mode rule kind => ?_⟩
  · have hreserved : request.supply.reserved = supply.reserved := hfollows.reserved_eq hrequest
    have hsearch := search_next request.supply request.kind
    rcases next_spec request.supply request.kind with ⟨number, hle, hname, hfree, hcounter, -⟩
    rw [hreserved] at hsearch hfree
    refine ⟨fun given => hsearch.iff, ?_, ?_, fun other hother => if_neg hother⟩
    · rwa [NameRequest.name, hname]
    · rw [NameRequest.rest, hcounter]
      exact Nat.lt_succ_of_le hle
  · rcases Session.addRule_account session.lexer mode rule kind session.account with
      ⟨hlexer, hnames, -, -⟩
    exact ⟨hlexer, hnames, Session.addRule_of_unnamed⟩

/-- A session with a reserved name and a rule whose name the supply gives next. -/
def contending : Session :=
  Session.run ⟨{ name := "L" }, { supply := { reserved := ["TOKEN1"] } }⟩
    [.next .token,
      .addRule defaultMode { name := "TOKEN2", body := .text "'x'" } .token]

/-- The session after one more rule, which has no name. -/
def contested : Session :=
  contending.step (.addRule defaultMode { name := "", body := .text "'y'" } .token)

/-- The reserved name is never given.  The name of the rule is given and not used: the search goes
on to the next one, and that is the name of the last rule. -/
theorem requests_fresh_contested :
    contested.account.requests.map NameRequest.name = ["TOKEN0", "TOKEN2", "TOKEN3"] ∧
      ["TOKEN0", "TOKEN2", "TOKEN3"].Nodup ∧
      contested.lexer.rules.map Rule.name = ["TOKEN2", "TOKEN3"] ∧
      (∃ request ∈ contested.account.requests,
        request.name = "TOKEN3" ∧ request.name ∉ ["TOKEN1"]) ∧
      ∃ drawn : String × NameSupply, drawn.1 = "TOKEN3" ∧
        Search (fun names : NameSupply => names.next .token)
          (· ∈ contending.lexer.rules.map Rule.name) contending.account.supply drawn ∧
        contested.account.supply = drawn.2 := by
  have hfresh := requests_fresh { reserved := ["TOKEN1"] } { name := "L" }
    [.next .token,
      .addRule defaultMode { name := "TOKEN2", body := .text "'x'" } .token,
      .addRule defaultMode { name := "", body := .text "'y'" } .token]
  have hnames :
      contested.account.requests.map NameRequest.name = ["TOKEN0", "TOKEN2", "TOKEN3"] := rfl
  have hlast : "TOKEN3" ∈ contested.account.requests.map NameRequest.name := by
    rw [hnames]
    decide
  rcases List.mem_map.mp hlast with ⟨request, hrequest, hname⟩
  have hadds := (requests_fresh { reserved := ["TOKEN1"] } { name := "L" }
    [.next .token, .addRule defaultMode { name := "TOKEN2", body := .text "'x'" } .token]).2.2.2
    defaultMode { name := "", body := .text "'y'" } .token
  rcases hadds with ⟨-, hsupply, hdraws⟩
  rcases hdraws rfl rfl with ⟨drawn, hsearch, hrest, -⟩
  have htaken : (contending.account.supply.next .token).1 ∈ contending.lexer.rules.map Rule.name :=
    List.mem_singleton.mpr rfl
  have hpassed : Search (fun names : NameSupply => names.next .token)
      (· ∈ contending.lexer.rules.map Rule.name) contending.account.supply
      ((contending.account.supply.next .token).2.next .token) :=
    .goesOn htaken (.ends (by decide))
  have hdrawn : (contending.account.supply.next .token).2.next .token = drawn :=
    (hsearch _).mp hpassed
  refine ⟨hnames, hnames ▸ hfresh.2.2.1, rfl, ⟨request, hrequest, hname,
    (hfresh.2.1 request hrequest).2.1⟩, drawn, ?_, (hsearch drawn).mpr rfl, hsupply.trans hrest⟩
  rw [← hdrawn]
  rfl

end GrammarConversion.Conversion
