import GrammarConversion.Proofs.Code.MethodScan

/-!
# The helpers for lexical states

Methods are looked at one after another, and which roles are still free depends on all methods
before.  In the end the roles are easy to tell: the first method that fits pushes, and the first one
that fits of all others pops (`holder_ofDeclarations`).

**The body that a method is recognised by need not be its own.**  A scan goes on to the next opening
brace, so a declaration without a body comes to the body of another method
(`not_exists_declaration_changed`).  What stands between a name and the brace tells whether that
happens (`Site.HasOwnBody`), and all other helpers are declared where they are found, with the body
that they are recognised by (`exists_site_declared_iff`).
-/

namespace GrammarConversion.Code

/-! ## Calls by their images -/

section Calls

variable {name : String} {tokens : List Token}

lemma opensArguments_eq_true_iff :
    opensArguments tokens = true ↔ ["("] <+: tokens.map Token.image := by
  cases tokens with
  | nil => simp [opensArguments]
  | cons token rest =>
      rw [opensArguments, beq_iff_eq, List.map_cons, List.cons_prefix_cons, eq_comm]
      simp

/-- **A function is called where its name and a parenthesis stand.** -/
lemma callsFunction_eq_true_iff :
    callsFunction name tokens = true ↔ [name, "("] <:+: tokens.map Token.image := by
  induction tokens with
  | nil => simp [callsFunction]
  | cons token rest ih =>
      rw [callsFunction, Bool.or_eq_true, Bool.and_eq_true, beq_iff_eq, ih,
        opensArguments_eq_true_iff, List.map_cons, List.infix_cons_iff, List.cons_prefix_cons,
        eq_comm]

/-- **A member is called where a dot, its name and a parenthesis stand.** -/
lemma callsMember_eq_true_iff :
    callsMember name tokens = true ↔ [".", name, "("] <:+: tokens.map Token.image := by
  induction tokens with
  | nil => simp [callsMember]
  | cons token rest ih =>
      rw [List.map_cons, List.infix_cons_iff, List.cons_prefix_cons, ← ih]
      cases rest with
      | nil => simp [callsMember]
      | cons next more =>
          rw [callsMember, Bool.or_eq_true, Bool.and_eq_true, Bool.and_eq_true, beq_iff_eq,
            beq_iff_eq, opensArguments_eq_true_iff, List.map_cons, List.cons_prefix_cons,
            eq_comm, @eq_comm _ next.image]

end Calls

/-! ## Roles -/

/-- What a helper does with the lexical state that it comes from, or goes back to. -/
inductive Role where
  | push
  | pop
  deriving DecidableEq, Repr

/-- The member of a stack that a helper calls. -/
def Role.member : Role → String
  | .push => "push"
  | .pop => "pop"

/-- **Whether a method has the shape of a helper:** it switches the lexical state, and pushes onto
or pops from a stack. -/
def Method.Fits (role : Role) (method : Method) : Prop :=
  ["SwitchTo", "("] <:+: method.body.map Token.image ∧
    [".", role.member, "("] <:+: method.body.map Token.image

instance (role : Role) (method : Method) : Decidable (method.Fits role) :=
  inferInstanceAs (Decidable (_ ∧ _))

namespace Role

/-- The name of the method that a role goes to. -/
def holder (found : StateFunctions) : Role → Option String
  | .push => found.push
  | .pop => found.pop

/-- **What a role goes to,** among candidates in order: the first that fits, but what pushes does
not pop. -/
def first? {α : Type} (fits : Role → α → Bool) (candidates : List α) : Role → Option α
  | .push => candidates.find? (fits .push)
  | .pop => (candidates.eraseP (fits .push)).find? (fits .pop)

/-- The method that a role goes to. -/
def method? (methods : List Method) (role : Role) : Option Method :=
  role.first? (fun role method => method.Fits role) methods

/-- Where the method is that a role goes to. -/
def site? (tokens : List Token) (role : Role) : Option Site :=
  role.first? (fun role site => (site.method tokens).Fits role) (sites tokens)

lemma first?_map {α β : Type} (f : α → β) (fits : Role → β → Bool) (candidates : List α)
    (role : Role) : role.first? fits (candidates.map f)
      = (role.first? (fun role a => fits role (f a)) candidates).map f := by
  cases role with
  | push => exact List.find?_map
  | pop =>
      rw [first?, List.eraseP_map, List.find?_map]
      rfl

lemma mem_of_first? {α : Type} {fits : Role → α → Bool} {candidates : List α} {role : Role}
    {a : α} (h : role.first? fits candidates = some a) : a ∈ candidates ∧ fits role a = true := by
  cases role with
  | push => exact ⟨List.mem_of_find?_eq_some h, List.find?_some h⟩
  | pop => exact ⟨List.mem_of_mem_eraseP (List.mem_of_find?_eq_some h), List.find?_some h⟩

/-- The roles of methods are those of the sites where they are. -/
lemma method?_voidMethods (tokens : List Token) (role : Role) :
    role.method? (voidMethods tokens) = (role.site? tokens).map (Site.method tokens) := by
  rw [method?, ← map_method_sites, first?_map]
  rfl

end Role

/-! ## What a method adds -/

namespace StateFunctions

lemma note_eq (found : StateFunctions) (method : Method) :
    found.note method =
      if found.push = none ∧ method.Fits .push then { found with push := some method.name }
      else if found.pop = none ∧ method.Fits .pop then { found with pop := some method.name }
      else found := by
  have hcalls : ∀ role : Role, method.Fits role ↔ callsFunction "SwitchTo" method.body = true ∧
      callsMember role.member method.body = true := fun role => by
    rw [callsFunction_eq_true_iff, callsMember_eq_true_iff, Method.Fits]
  by_cases hswitches : callsFunction "SwitchTo" method.body = true
  · simp [note, hcalls, hswitches, Role.member]
  · simp [note, hcalls, hswitches]

/-- **A role that is taken stays so, and a free one goes to the first method that fits.** -/
lemma foldl_note (methods : List Method) (found : StateFunctions) :
    (methods.foldl note found).push
        = found.push.or ((methods.find? (·.Fits .push)).map Method.name) ∧
      (methods.foldl note found).pop
        = found.pop.or (((if found.push = none then methods.eraseP (·.Fits .push)
            else methods).find? (·.Fits .pop)).map Method.name) := by
  induction methods generalizing found with
  | nil => simp
  | cons method rest ih =>
      rw [List.foldl_cons, (ih _).1, (ih _).2, note_eq]
      obtain ⟨push, pop⟩ := found
      by_cases hpush : push = none ∧ method.Fits .push
      · simp [hpush.1, hpush.2]
      · have hfirst : push.or (((method :: rest).find? (·.Fits .push)).map Method.name)
            = push.or ((rest.find? (·.Fits .push)).map Method.name) := by
          cases push <;> simp_all
        -- A method that does not push is left for popping.
        have hothers : (if push = none then (method :: rest).eraseP (·.Fits .push)
            else method :: rest)
            = method :: if push = none then rest.eraseP (·.Fits .push) else rest := by
          cases push <;> simp_all
        rw [if_neg hpush, hfirst, hothers]
        by_cases hpop : pop = none ∧ method.Fits .pop
        · simp [hpop.1, hpop.2]
        · rw [if_neg hpop]
          cases pop <;> simp_all

/-- **Each role goes to the first method that is left for it.** -/
lemma holder_ofDeclarations (code : String) (role : Role) :
    role.holder (ofDeclarations code)
      = (role.method? (voidMethods (tokenize code))).map Method.name := by
  cases role with
  | push => simp [Role.holder, ofDeclarations, (foldl_note _ _).1, Role.method?, Role.first?]
  | pop => simp [Role.holder, ofDeclarations, (foldl_note _ _).2, Role.method?, Role.first?]

end StateFunctions

/-! ## Bodies one after another -/

lemma Site.IsMethod.start_lt_opening {tokens : List Token} {site : Site}
    (h : site.IsMethod tokens) : site.start < site.opening := by
  have hhead := h.head.le
  omega

/-- Whether a method begins in the body of another one. -/
def Site.Holds (site other : Site) : Prop :=
  site.opening < other.start ∧ other.start < site.closing

/-- **No method is found in the body of another one.** -/
lemma not_holds {tokens : List Token} {site other : Site} (hsite : site ∈ sites tokens)
    (hother : other ∈ sites tokens) : ¬site.Holds other := by
  have hstart {site : Site} (h : site ∈ sites tokens) :
      site.start < site.opening ∧ site.opening ≤ site.closing :=
    ⟨(isMethod_of_mem_sites h).start_lt_opening, (isMethod_of_mem_sites h).le⟩
  have hself : ∀ site ∈ sites tokens, ¬site.Holds site := fun site hsite hholds =>
    absurd hholds.1 (hstart hsite).1.le.not_gt
  have hafter : (sites tokens).Pairwise fun site later => ¬site.Holds later :=
    (pairwise_sites tokens).imp fun hends hholds => absurd hholds.2 hends.le.not_gt
  have hbefore : (sites tokens).Pairwise (flip fun later site => ¬later.Holds site) := by
    refine (pairwise_sites tokens).imp_of_mem fun {earlier later} hearlier hlater hends hholds => ?_
    have hearly := hstart hearlier
    have hlate := hstart hlater
    have hopens := hholds.1
    omega
  exact List.Pairwise.forall_of_forall_of_flip hself hafter hbefore hsite hother

/-- **A scan ends, reads no token that is not there, and finds the methods.**  Their bodies stand
one after another.  Each is all of a block or goes on to the end of the code, and nothing that is
declared in it is found.  Each role goes to the first method that fits, and what pushes does not
pop. -/
theorem scan_ends_and_holder_eq :
    (∀ tokens : List Token,
      Scan.run tokens (2 * tokens.length + 3) {} = some ⟨sites tokens, .ended⟩ ∧
        (sites tokens).map (Site.method tokens) = voidMethods tokens ∧
        (sites tokens).Pairwise (fun site later => site.closing < later.opening) ∧
        ∀ site ∈ sites tokens, site.IsMethod tokens ∧
          ∀ other ∈ sites tokens, ¬site.Holds other) ∧
      ∀ (code : String) (role : Role), role.holder (StateFunctions.ofDeclarations code)
        = (role.method? (voidMethods (tokenize code))).map Method.name := by
  refine ⟨fun tokens => ⟨run_eq_some_sites tokens, map_method_sites tokens, ?_, ?_⟩,
    StateFunctions.holder_ofDeclarations⟩
  · refine (pairwise_sites tokens).imp_of_mem fun _ hlater hends => ?_
    exact hends.trans (isMethod_of_mem_sites hlater).start_lt_opening
  · exact fun site hsite => ⟨isMethod_of_mem_sites hsite, fun _ => not_holds hsite⟩

/-! ## Declarations -/

/-- **A declaration of a method with a body of its own.**  Nothing between its name and the body
ends it. -/
structure Declaration where
  void : Token
  named : Token
  paren : Token
  header : List Token
  opening : Token
  body : List Token
  closing : Token
  void_eq : void.image = "void"
  named_eq : named.kind = .identifier
  paren_eq : paren.image = "("
  closes : ∃ token ∈ header, token.image = ")"
  goesOn : ∀ token ∈ header, token.image ∉ [";", "\x7d", "\x7b"]
  opening_eq : opening.image = "\x7b"
  isBalanced : IsBalanced body
  closing_eq : closing.image = "\x7d"

namespace Declaration

def tokens (declaration : Declaration) : List Token :=
  declaration.void :: declaration.named :: declaration.paren ::
    (declaration.header ++ declaration.opening :: (declaration.body ++ [declaration.closing]))

def method (declaration : Declaration) : Method :=
  ⟨declaration.named.image, declaration.body⟩

/-- Whether a declaration stands at a position. -/
def IsAt (declaration : Declaration) (tokens : List Token) (start : Nat) : Prop :=
  declaration.tokens <+: tokens.drop start

/-- The token that ends a header: the opening brace of a body, or what no header holds. -/
def headerEnd? (tokens : List Token) : Option Token :=
  tokens.find? fun token => token.image ∈ [";", "\x7d", "\x7b"]

section Parts

variable {declaration : Declaration} {tokens : List Token} {start : Nat}

lemma IsAt.getElem?_succ (h : declaration.IsAt tokens start) :
    tokens[start + 1]? = some declaration.named := by
  obtain ⟨after, hafter⟩ := h
  rw [← List.getElem?_drop, ← hafter]
  rfl

lemma IsAt.headerEnd?_eq (h : declaration.IsAt tokens start) :
    headerEnd? (tokens.drop (start + 3)) = some declaration.opening := by
  obtain ⟨after, hafter⟩ := h
  have hheader : headerEnd? declaration.header = none :=
    List.find?_eq_none.mpr fun token htoken => by simpa using declaration.goesOn token htoken
  have hdrop : tokens.drop (start + 3) = declaration.header ++ declaration.opening ::
      (declaration.body ++ [declaration.closing] ++ after) := by
    rw [← List.drop_drop, ← hafter]
    simp [Declaration.tokens]
  rw [hdrop, headerEnd?, List.find?_append, ← headerEnd?, hheader]
  simp [declaration.opening_eq]

end Parts

end Declaration

/-- **Whether the body that is found is that of the declaration.**  Its header ends with a
parenthesis and not with the declaration, and its block is closed. -/
structure Site.HasOwnBody (tokens : List Token) (site : Site) : Prop where
  closes : ∃ token ∈ site.header tokens, token.image = ")"
  goesOn : ∀ token ∈ site.header tokens, token.image ∉ [";", "\x7d"]
  lt_length : site.closing < tokens.length

section OwnBody

variable {tokens : List Token} {site : Site}

lemma drop_eq_slice_append {first last : Nat} (hle : first ≤ last) (hlast : last ≤ tokens.length) :
    tokens.drop first = slice tokens first last ++ tokens.drop last := by
  have hlength : first ≤ (tokens.take last).length := by
    rw [List.length_take]
    omega
  rw [slice, ← List.drop_append_of_le_length hlength, List.take_append_drop]

/-- A list is cut in one way only before the first of its opening braces. -/
lemma append_cut_unique {header header' rest rest' : List Token} {opening : Token}
    (heq : header ++ opening :: rest = header' ++ rest') (hopening : opening.image = "\x7b")
    (hheader : ∀ token ∈ header, token.image ≠ "\x7b")
    (hheader' : ∀ token ∈ header', token.image ≠ "\x7b")
    (hrest' : ∀ token ∈ rest'.head?, token.image = "\x7b") :
    header = header' ∧ opening :: rest = rest' := by
  rcases List.append_eq_append_iff.mp heq with ⟨more, rfl, hrest⟩ | ⟨more, rfl, hrest⟩
  · cases more with
    | nil => exact ⟨(List.append_nil _).symm, hrest⟩
    | cons token more =>
        obtain ⟨rfl, -⟩ := List.cons.inj hrest
        exact absurd hopening (hheader' opening (by simp))
  · cases more with
    | nil => exact ⟨List.append_nil _, hrest.symm⟩
    | cons token more =>
        have himage := hrest' token (by rw [hrest]; rfl)
        exact absurd himage (hheader token (by simp))

namespace Site.IsMethod

lemma exists_drop_start (h : site.IsMethod tokens) :
    ∃ void named paren : Token, void.image = "void" ∧ named.kind = .identifier ∧
      named.image = site.name ∧ paren.image = "(" ∧
      tokens.drop site.start
        = void :: named :: paren :: (site.header tokens ++ tokens.drop site.opening) := by
  obtain ⟨void, hvoid, hvoidImage⟩ := h.head.void
  obtain ⟨named, hnamed, hkind, hname⟩ := h.head.named
  obtain ⟨paren, hparen, hparenImage⟩ := h.head.paren
  refine ⟨void, named, paren, hvoidImage, hkind, hname, hparenImage, ?_⟩
  rw [drop_of_read hvoid, drop_of_read hnamed, drop_of_read hparen, Site.header,
    ← drop_eq_slice_append h.head.le h.head.le_length]

lemma exists_drop_opening (h : site.IsMethod tokens) (hlt : site.closing < tokens.length) :
    ∃ opening closing : Token, opening.image = "\x7b" ∧ closing.image = "\x7d" ∧
      tokens.drop site.opening
        = opening :: (site.body tokens ++ closing :: tokens.drop (site.closing + 1)) := by
  obtain ⟨opening, hopening⟩ := Scan.exists_read (h.le.trans_lt hlt)
  obtain ⟨⟨closing, hclosing, himage⟩, -⟩ := h.closes hlt
  have hopens := h.opens opening hopening
  -- One token is not both braces.
  have hne : site.opening ≠ site.closing := fun heq => by
    rw [heq, hclosing, Option.some.injEq] at hopening
    rw [← hopening, himage] at hopens
    exact absurd hopens (by decide)
  refine ⟨opening, closing, hopens, himage, ?_⟩
  rw [drop_of_read hopening, drop_eq_slice_append (Nat.succ_le_of_lt (h.le.lt_of_ne hne)) hlt.le,
    drop_of_read hclosing]
  rfl

/-- **A method with a body of its own is declared where it is found.** -/
lemma exists_declaration (h : site.IsMethod tokens) (hown : site.HasOwnBody tokens) :
    ∃ declaration : Declaration, declaration.IsAt tokens site.start ∧
      declaration.method = site.method tokens := by
  obtain ⟨void, named, paren, hvoid, hkind, hname, hparen, hstart⟩ := h.exists_drop_start
  obtain ⟨opening, closing, hopening, hclosing, hrest⟩ := h.exists_drop_opening hown.lt_length
  refine ⟨⟨void, named, paren, site.header tokens, opening, site.body tokens, closing, hvoid, hkind,
    hparen, hown.closes, fun token htoken => ?_, hopening, (h.closes hown.lt_length).2, hclosing⟩,
    ?_, ?_⟩
  · have hends := hown.goesOn token htoken
    have hbrace := h.head.header token htoken
    simp_all
  · rw [Declaration.IsAt, hstart, hrest]
    exact ⟨tokens.drop (site.closing + 1), by simp [Declaration.tokens]⟩
  · rw [Declaration.method, Site.method, hname]

/-- **A declaration is found with its body.** -/
lemma hasOwnBody_of_isAt (h : site.IsMethod tokens) {declaration : Declaration}
    (hat : declaration.IsAt tokens site.start) : site.HasOwnBody tokens := by
  obtain ⟨void, named, paren, -, -, -, -, hstart⟩ := h.exists_drop_start
  obtain ⟨after, hafter⟩ := hat
  simp only [hstart, Declaration.tokens, List.cons_append, List.append_assoc,
    List.cons.injEq] at hafter
  have hbrace : ∀ token ∈ (tokens.drop site.opening).head?, token.image = "\x7b" := by
    rw [List.head?_drop]
    exact h.opens
  obtain ⟨hheader, hrest⟩ := append_cut_unique hafter.2.2.2 declaration.opening_eq
    (fun token htoken himage => declaration.goesOn token htoken (by simp [himage]))
    h.head.header hbrace
  refine ⟨hheader ▸ declaration.closes, fun token htoken => ?_, ?_⟩
  · have hends := declaration.goesOn token (hheader ▸ htoken)
    simp_all
  · by_contra hend
    -- The body that goes on to the end has one block too many closed.
    have hbody : site.body tokens = (declaration.body ++ [declaration.closing]) ++ after := by
      have hlast : site.closing = tokens.length := h.le_length.antisymm (Nat.not_lt.mp hend)
      rw [Site.body, slice, hlast, List.take_length, ← List.tail_drop, ← hrest]
      simp
    have hfronts := h.le_of_front (declaration.body ++ [declaration.closing])
      (hbody ▸ List.prefix_append _ _)
    have hcount := declaration.isBalanced.count_eq
    rw [countMark_append, countMark_append, declaration.closing_eq, hcount, if_pos rfl,
      if_neg (by decide)] at hfronts
    exact Nat.not_succ_le_self _ hfronts

end Site.IsMethod

end OwnBody

/-- **A helper is declared with the body that it is recognised by, if that is its own.** -/
theorem exists_site_declared_iff {code name : String} {role : Role}
    (h : role.holder (StateFunctions.ofDeclarations code) = some name) :
    ∃ site, role.site? (tokenize code) = some site ∧ site.name = name ∧
      ((∃ declaration : Declaration, declaration.IsAt (tokenize code) site.start ∧
          declaration.method.name = name ∧ declaration.method.Fits role) ↔
        site.HasOwnBody (tokenize code)) := by
  rw [StateFunctions.holder_ofDeclarations, Role.method?_voidMethods, Option.map_map,
    Option.map_eq_some_iff] at h
  obtain ⟨site, hsite, rfl⟩ := h
  obtain ⟨hmem, hfits⟩ := Role.mem_of_first? hsite
  have hmethod := isMethod_of_mem_sites hmem
  refine ⟨site, hsite, rfl, ?_, fun hown => ?_⟩
  · rintro ⟨declaration, hat, -, -⟩
    exact hmethod.hasOwnBody_of_isAt hat
  · obtain ⟨declaration, hat, heq⟩ := hmethod.exists_declaration hown
    refine ⟨declaration, hat, ?_, ?_⟩
    · rw [heq]
      rfl
    · rw [heq]
      exact of_decide_eq_true hfits

/-! ### A declaration without a body -/

/-- A method without a body, and two helpers. -/
def listenerCode : String :=
  "interface L \x7b void changed(); \x7d void enter(int s) \x7b states.push(s); SwitchTo(s); \x7d"
    ++ " void leave() \x7b SwitchTo(states.pop()); \x7d"

def listenerTokens : List Token :=
  [⟨.keyword, "interface"⟩, ⟨.identifier, "L"⟩, ⟨.operator, "\x7b"⟩, ⟨.keyword, "void"⟩,
    ⟨.identifier, "changed"⟩, ⟨.operator, "("⟩, ⟨.operator, ")"⟩, ⟨.operator, ";"⟩,
    ⟨.operator, "\x7d"⟩, ⟨.keyword, "void"⟩, ⟨.identifier, "enter"⟩, ⟨.operator, "("⟩,
    ⟨.keyword, "int"⟩, ⟨.identifier, "s"⟩, ⟨.operator, ")"⟩, ⟨.operator, "\x7b"⟩,
    ⟨.identifier, "states"⟩, ⟨.operator, "."⟩, ⟨.identifier, "push"⟩, ⟨.operator, "("⟩,
    ⟨.identifier, "s"⟩, ⟨.operator, ")"⟩, ⟨.operator, ";"⟩, ⟨.identifier, "SwitchTo"⟩,
    ⟨.operator, "("⟩, ⟨.identifier, "s"⟩, ⟨.operator, ")"⟩, ⟨.operator, ";"⟩, ⟨.operator, "\x7d"⟩,
    ⟨.keyword, "void"⟩, ⟨.identifier, "leave"⟩, ⟨.operator, "("⟩, ⟨.operator, ")"⟩,
    ⟨.operator, "\x7b"⟩, ⟨.identifier, "SwitchTo"⟩, ⟨.operator, "("⟩, ⟨.identifier, "states"⟩,
    ⟨.operator, "."⟩, ⟨.identifier, "pop"⟩, ⟨.operator, "("⟩, ⟨.operator, ")"⟩, ⟨.operator, ")"⟩,
    ⟨.operator, ";"⟩, ⟨.operator, "\x7d"⟩]

lemma tokenize_listenerCode : tokenize listenerCode = listenerTokens := by
  decide +kernel

/-- The helper that pops has a body of its own. -/
theorem exists_declaration_leave :
    Role.pop.holder (StateFunctions.ofDeclarations listenerCode) = some "leave" ∧
      ∃ declaration : Declaration, declaration.IsAt (tokenize listenerCode) 29 ∧
        declaration.method.name = "leave" ∧ declaration.method.Fits .pop := by
  have hsite : Role.pop.site? (tokenize listenerCode) = some ⟨29, "leave", 33, 43⟩ := by
    rw [tokenize_listenerCode]
    decide
  have hholder : Role.pop.holder (StateFunctions.ofDeclarations listenerCode) = some "leave" := by
    rw [StateFunctions.holder_ofDeclarations, Role.method?_voidMethods, hsite]
    rfl
  obtain ⟨site, hsite', -, hown⟩ := exists_site_declared_iff hholder
  obtain rfl := Option.some.inj (hsite.symm.trans hsite')
  refine ⟨hholder, hown.mpr ?_⟩
  rw [tokenize_listenerCode]
  exact ⟨by decide, by decide, by decide⟩

/-- **A helper is recognised by the body of another method.** -/
theorem not_exists_declaration_changed :
    Role.push.holder (StateFunctions.ofDeclarations listenerCode) = some "changed" ∧
      ¬∃ (start : Nat) (declaration : Declaration),
        declaration.IsAt (tokenize listenerCode) start ∧
          declaration.method.name = "changed" ∧ declaration.method.Fits .push := by
  refine ⟨?_, ?_⟩
  · rw [StateFunctions.holder_ofDeclarations, Role.method?_voidMethods, tokenize_listenerCode]
    decide
  · rw [tokenize_listenerCode]
    rintro ⟨start, declaration, hat, hname, -⟩
    have hnamed := hat.getElem?_succ
    have hends := hat.headerEnd?_eq
    have hlt : start + 1 < listenerTokens.length := (List.getElem?_eq_some_iff.mp hnamed).1
    have hstart : ∀ start < listenerTokens.length,
        (listenerTokens[start + 1]?).map Token.image = some "changed" →
          (Declaration.headerEnd? (listenerTokens.drop (start + 3))).map Token.image
            = some ";" := by
      decide
    have hsemicolon := hstart start (Nat.lt_of_succ_lt hlt) (by rw [hnamed, ← hname]; rfl)
    rw [hends, Option.map_some, declaration.opening_eq] at hsemicolon
    exact absurd hsemicolon (by decide)

end GrammarConversion.Code
