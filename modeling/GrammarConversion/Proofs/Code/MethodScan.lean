import Mathlib.Data.List.Infix
import Mathlib.Tactic.Lemma
import GrammarConversion.Code.Method

/-!
# The scan for methods by position

`voidMethods` takes a list of tokens apart.  A scan that goes by positions does the same in three
loops, one inside the other: over the tokens outside of methods, over those before a body, and over
those of the body.  All three advance the same index, and each reads tokens of which it has to know
that they are there (`Scan.next`).

What a scan has yet to find can be told at each step from the tokens that are left (`Pending`).  A
step either finds a method or leaves what is pending as it is, and always comes nearer to the end
(`Scan.Sound.next`).  So a scan reads no token that is not there, and ends
(`run_eq_some_sites`).

Where the methods are is more than what they are.  Each `Site` begins after the end of the one
before, and its body is all of a block, or goes on to the end of the code (`Site.IsMethod`).
-/

namespace GrammarConversion.Code

/-! ## Slices and blocks -/

/-- The tokens from a position up to another one. -/
def slice (tokens : List Token) (first last : Nat) : List Token :=
  (tokens.take last).drop first

/-- How often a mark occurs. -/
def countMark (mark : String) (tokens : List Token) : Nat :=
  tokens.countP fun token => token.image == mark

/-- **Whether some tokens leave `depth` blocks open,** and close none that they have not opened. -/
structure LeavesOpen (depth : Nat) (tokens : List Token) : Prop where
  count_eq : countMark "\x7b" tokens = countMark "\x7d" tokens + depth
  le_of_front : ∀ front, front <+: tokens → countMark "\x7d" front ≤ countMark "\x7b" front

/-- **Whether each block that is opened is closed,** and the other way around. -/
abbrev IsBalanced (tokens : List Token) : Prop :=
  LeavesOpen 0 tokens

section Blocks

variable {tokens : List Token} {token : Token} {depth first i : Nat}

lemma slice_of_le (h : i ≤ first) : slice tokens first i = [] := by
  rw [slice, List.drop_eq_nil_iff, List.length_take]
  omega

lemma slice_succ (hle : first ≤ i) (hread : tokens[i]? = some token) :
    slice tokens first (i + 1) = slice tokens first i ++ [token] := by
  have hlt : i < tokens.length := (List.getElem?_eq_some_iff.mp hread).1
  rw [slice, slice, List.take_add_one, hread, Option.toList_some, List.drop_append_of_le_length]
  rw [List.length_take]
  omega

lemma drop_of_read (hread : tokens[i]? = some token) :
    tokens.drop i = token :: tokens.drop (i + 1) := by
  rcases List.getElem?_eq_some_iff.mp hread with ⟨hlt, rfl⟩
  exact List.drop_eq_getElem_cons hlt

lemma leavesOpen_nil : LeavesOpen 0 [] :=
  ⟨rfl, fun front hfront => by rw [List.prefix_nil.mp hfront]; exact Nat.le_refl _⟩

lemma countMark_append (mark : String) (tokens : List Token) (token : Token) :
    countMark mark (tokens ++ [token])
      = countMark mark tokens + if token.image = mark then 1 else 0 := by
  rw [countMark, List.countP_append, List.countP_singleton, countMark]
  simp

/-- The same blocks are left open after one more token, or one more or less. -/
lemma LeavesOpen.append {depth' : Nat} (h : LeavesOpen depth tokens)
    (hcount : countMark "\x7b" (tokens ++ [token])
      = countMark "\x7d" (tokens ++ [token]) + depth') :
    LeavesOpen depth' (tokens ++ [token]) := by
  refine ⟨hcount, fun front hfront => ?_⟩
  rcases List.prefix_concat_iff.mp hfront with rfl | hbefore
  · rw [hcount]
    exact Nat.le_add_right _ _
  · exact h.le_of_front front hbefore

lemma LeavesOpen.opens (h : LeavesOpen depth tokens) (hopen : token.image = "\x7b") :
    LeavesOpen (depth + 1) (tokens ++ [token]) := by
  have hne : token.image ≠ "\x7d" := by rw [hopen]; decide
  refine h.append ?_
  rw [countMark_append, countMark_append, if_pos hopen, if_neg hne, h.count_eq]
  omega

lemma LeavesOpen.closes (h : LeavesOpen (depth + 1) tokens) (hclose : token.image = "\x7d") :
    LeavesOpen depth (tokens ++ [token]) := by
  have hne : token.image ≠ "\x7b" := by rw [hclose]; decide
  refine h.append ?_
  rw [countMark_append, countMark_append, if_neg hne, if_pos hclose, h.count_eq]
  omega

lemma LeavesOpen.stays (h : LeavesOpen depth tokens) (hopen : token.image ≠ "\x7b")
    (hclose : token.image ≠ "\x7d") : LeavesOpen depth (tokens ++ [token]) := by
  refine h.append ?_
  rw [countMark_append, countMark_append, if_neg hopen, if_neg hclose, h.count_eq]
  omega

/-! ## Blocks taken off a list -/

lemma splitBlock_opens (depth : Nat) (rest : List Token) (hopen : token.image = "\x7b") :
    splitBlock depth (token :: rest)
      = (token :: (splitBlock (depth + 1) rest).1, (splitBlock (depth + 1) rest).2) := by
  have hne : token.image ≠ "\x7d" := by rw [hopen]; decide
  rw [splitBlock, if_neg fun hclosed => hne hclosed.1, if_pos hopen]

lemma splitBlock_closes (depth : Nat) (rest : List Token) (hclose : token.image = "\x7d") :
    splitBlock (depth + 1) (token :: rest)
      = (token :: (splitBlock depth rest).1, (splitBlock depth rest).2) := by
  have hne : token.image ≠ "\x7b" := by rw [hclose]; decide
  rw [splitBlock, if_neg fun hclosed => Nat.succ_ne_zero depth hclosed.2, if_neg hne,
    if_pos hclose, Nat.add_sub_cancel]

lemma splitBlock_leaves (rest : List Token) (hclose : token.image = "\x7d") :
    splitBlock 0 (token :: rest) = ([], rest) := by
  rw [splitBlock, if_pos ⟨hclose, rfl⟩]

lemma splitBlock_stays (depth : Nat) (rest : List Token) (hopen : token.image ≠ "\x7b")
    (hclose : token.image ≠ "\x7d") :
    splitBlock depth (token :: rest)
      = (token :: (splitBlock depth rest).1, (splitBlock depth rest).2) := by
  rw [splitBlock, if_neg fun hclosed => hclose hclosed.1, if_neg hopen, if_neg hclose]

lemma voidMethods_nil : voidMethods [] = [] := by
  rw [voidMethods]
  simp

lemma voidMethods_eq_nil (h : tokens.length ≤ 2) : voidMethods tokens = [] := by
  match tokens, h with
  | [], _ => exact voidMethods_nil
  | [_], _ => rw [voidMethods]; simp
  | [_, _], _ => rw [voidMethods]; simp
  | _ :: _ :: _ :: _, h => simp at h

end Blocks

/-! ## The scan -/

/-- **A place where a method is found:** the positions of its first token and of the braces around
its body. -/
structure Site where
  start : Nat
  name : String
  opening : Nat
  closing : Nat
  deriving DecidableEq, Repr

namespace Site

/-- What stands between the parenthesis after the name and the body. -/
def header (tokens : List Token) (site : Site) : List Token :=
  slice tokens (site.start + 3) site.opening

def body (tokens : List Token) (site : Site) : List Token :=
  slice tokens (site.opening + 1) site.closing

def method (tokens : List Token) (site : Site) : Method :=
  ⟨site.name, site.body tokens⟩

end Site

/-- The loop that a scan is in, with its variables. -/
inductive Control where
  /-- Looks for the next method. -/
  | outside (i : Nat)
  /-- Looks for the opening brace of a body. -/
  | before (start : Nat) (name : String) (i : Nat)
  /-- Looks for the closing brace of a body. -/
  | inside (start : Nat) (name : String) (opening : Nat) (depth : Int) (i : Nat)
  | ended
  deriving DecidableEq, Repr

/-- **A scan for methods:** those that are found, and where it goes on. -/
structure Scan where
  sites : List Site := []
  control : Control := .outside 0
  deriving DecidableEq, Repr

namespace Scan

/-- **One step of a scan.**  It fails where a token is read that is not there. -/
def next (tokens : List Token) (scan : Scan) : Option Scan :=
  match scan.control with
  | .outside i =>
    if i + 2 < tokens.length then do
      let first ← tokens[i]?
      let second ← tokens[i + 1]?
      let third ← tokens[i + 2]?
      if first.image = "void" ∧ second.kind = .identifier ∧ third.image = "(" then
        some { scan with control := .before i second.image (i + 3) }
      else some { scan with control := .outside (i + 1) }
    else some { scan with control := .ended }
  | .before start name i =>
    if i < tokens.length then do
      let token ← tokens[i]?
      if token.image = "\x7b" then some { scan with control := .inside start name i 0 i }
      else some { scan with control := .before start name (i + 1) }
    else some { scan with control := .inside start name i 0 i }
  | .inside start name opening depth i =>
    let found : Scan := ⟨scan.sites ++ [⟨start, name, opening, i⟩], .outside (i + 1)⟩
    if i < tokens.length then do
      let token ← tokens[i]?
      if token.image = "\x7b" then
        some { scan with control := .inside start name opening (depth + 1) (i + 1) }
      else if token.image = "\x7d" then
        if depth - 1 = 0 then some found
        else some { scan with control := .inside start name opening (depth - 1) (i + 1) }
      else some { scan with control := .inside start name opening depth (i + 1) }
    else some found
  | .ended => some scan

/-- The scan after some steps, if no token was read that is not there. -/
def run (tokens : List Token) : (steps : Nat) → Scan → Option Scan
  | 0, scan => some scan
  | steps + 1, scan => (scan.next tokens).bind (run tokens steps)

end Scan

/-! ## What is found, and what is pending -/

/-- **Whether a declaration of a method begins at a position,** with no brace from there to another
one. -/
structure IsHead (tokens : List Token) (start : Nat) (name : String) (stop : Nat) : Prop where
  void : ∃ token, tokens[start]? = some token ∧ token.image = "void"
  named : ∃ token, tokens[start + 1]? = some token ∧ token.kind = .identifier ∧ token.image = name
  paren : ∃ token, tokens[start + 2]? = some token ∧ token.image = "("
  le : start + 3 ≤ stop
  le_length : stop ≤ tokens.length
  header : ∀ token ∈ slice tokens (start + 3) stop, token.image ≠ "\x7b"

/-- **Whether the body of a method opens at a position,** or the tokens end there without one. -/
structure IsOpened (tokens : List Token) (start : Nat) (name : String) (opening : Nat) :
    Prop where
  head : IsHead tokens start name opening
  opens : ∀ token, tokens[opening]? = some token → token.image = "\x7b"

/-- **Whether a method is where a site says it is.**  What comes first after the name of all braces
opens its body, and the body is the block of that brace, or all the rest of the tokens if the block
is not closed. -/
structure Site.IsMethod (tokens : List Token) (site : Site) : Prop
    extends IsOpened tokens site.start site.name site.opening where
  le : site.opening ≤ site.closing
  le_length : site.closing ≤ tokens.length
  le_of_front : ∀ front, front <+: site.body tokens →
    countMark "\x7d" front ≤ countMark "\x7b" front
  closes : site.closing < tokens.length →
    (∃ token, tokens[site.closing]? = some token ∧ token.image = "\x7d") ∧
      IsBalanced (site.body tokens)

/-- **What a scan is yet to find,** in each of its loops. -/
inductive Pending (tokens : List Token) : Control → List Method → Prop
  | outside (i : Nat) : Pending tokens (.outside i) (voidMethods (tokens.drop i))
  | before {start i : Nat} {name : String} (hhead : IsHead tokens start name i) :
      Pending tokens (.before start name i)
        (⟨name, (splitBlock 0 (afterBrace (tokens.drop i))).1⟩
          :: voidMethods (splitBlock 0 (afterBrace (tokens.drop i))).2)
  /-- The opening brace is read a second time. -/
  | atBrace {start i : Nat} {name : String} (hopened : IsOpened tokens start name i) :
      Pending tokens (.inside start name i 0 i)
        (⟨name, (splitBlock 0 (tokens.drop (i + 1))).1⟩
          :: voidMethods (splitBlock 0 (tokens.drop (i + 1))).2)
  | inside {start opening depth i : Nat} {name : String}
      (hopened : IsOpened tokens start name opening) (hlt : opening < i)
      (hle : i ≤ tokens.length) (hbody : LeavesOpen depth (slice tokens (opening + 1) i)) :
      Pending tokens (.inside start name opening (depth + 1) i)
        (⟨name, slice tokens (opening + 1) i ++ (splitBlock depth (tokens.drop i)).1⟩
          :: voidMethods (splitBlock depth (tokens.drop i)).2)
  | ended : Pending tokens .ended []

lemma IsHead.succ {tokens : List Token} {start stop : Nat} {name : String} {token : Token}
    (h : IsHead tokens start name stop) (hread : tokens[stop]? = some token)
    (hother : token.image ≠ "\x7b") : IsHead tokens start name (stop + 1) := by
  refine ⟨h.void, h.named, h.paren, h.le.trans (Nat.le_succ _),
    (List.getElem?_eq_some_iff.mp hread).1, ?_⟩
  rw [slice_succ h.le hread, List.forall_mem_append, List.forall_mem_singleton]
  exact ⟨h.header, hother⟩

namespace Scan

/-- The position before which all sites end. -/
def start? : Control → Option Nat
  | .outside i => some i
  | .before start _ _ => some start
  | .inside start _ _ _ _ => some start
  | .ended => none

/-- **What holds of a scan at each step.** -/
structure Sound (tokens : List Token) (methods : List Method) (scan : Scan) : Prop where
  pending : ∃ more, Pending tokens scan.control more ∧
    methods = scan.sites.map (Site.method tokens) ++ more
  isMethod : ∀ site ∈ scan.sites, site.IsMethod tokens
  ordered : scan.sites.Pairwise fun site later => site.closing < later.start
  before : ∀ site ∈ scan.sites, ∀ start ∈ start? scan.control, site.closing < start

/-- How many steps a scan may still take. -/
def remaining (tokens : List Token) : Control → Nat
  | .outside i => 2 * (tokens.length + 1 - i) + 1
  | .before _ _ i => 2 * (tokens.length + 1 - i) + 2
  | .inside _ _ _ _ i => 2 * (tokens.length + 1 - i) + 1
  | .ended => 0

/-! ## Steps -/

/-- **What a step comes to:** another loop with the same methods pending, or a site with the first
of them. -/
inductive Advances (tokens : List Token) (scan : Scan) (more : List Method) : Scan → Prop
  | goesOn {control : Control} (hpending : Pending tokens control more)
      (hstart : ∀ start ∈ start? scan.control, ∀ later ∈ start? control, start ≤ later) :
      Advances tokens scan more ⟨scan.sites, control⟩
  | finds {site : Site} (hsite : site.IsMethod tokens)
      (hstart : ∀ start ∈ start? scan.control, start ≤ site.start)
      (hmore : more = site.method tokens :: voidMethods (tokens.drop (site.closing + 1))) :
      Advances tokens scan more ⟨scan.sites ++ [site], .outside (site.closing + 1)⟩

/-- **A step of a scan that can be taken:** it comes to something, and nearer to the end. -/
structure Steps (tokens : List Token) (scan : Scan) (more : List Method) (scan' : Scan) :
    Prop where
  next_eq : next tokens scan = some scan'
  advances : Advances tokens scan more scan'
  nearer : remaining tokens scan'.control < remaining tokens scan.control

section Steps

variable {tokens : List Token} {more : List Method} {sites : List Site}
  {start opening depth i : Nat} {name : String} {token : Token}

lemma exists_read (h : i < tokens.length) : ∃ token, tokens[i]? = some token :=
  ⟨tokens[i], List.getElem?_eq_getElem h⟩

/-! ### Outside of methods -/

lemma next_outside {first second third : Token} (sites : List Site)
    (hfirst : tokens[i]? = some first) (hsecond : tokens[i + 1]? = some second)
    (hthird : tokens[i + 2]? = some third) :
    next tokens ⟨sites, .outside i⟩ = some ⟨sites,
      if first.image = "void" ∧ second.kind = .identifier ∧ third.image = "(" then
        .before i second.image (i + 3)
      else .outside (i + 1)⟩ := by
  have hlt : i + 2 < tokens.length := (List.getElem?_eq_some_iff.mp hthird).1
  simp only [next, if_pos hlt, hfirst, hsecond, hthird, Option.bind_eq_bind, Option.bind_some]
  split <;> rfl

lemma exists_steps_outside (tokens : List Token) (sites : List Site) (i : Nat) :
    ∃ scan, Steps tokens ⟨sites, .outside i⟩ (voidMethods (tokens.drop i)) scan := by
  by_cases hlt : i + 2 < tokens.length
  · obtain ⟨first, hfirst⟩ := exists_read (show i < tokens.length by omega)
    obtain ⟨second, hsecond⟩ := exists_read (show i + 1 < tokens.length by omega)
    obtain ⟨third, hthird⟩ := exists_read hlt
    have hnext := next_outside sites hfirst hsecond hthird
    have htail : tokens.drop (i + 1) = second :: third :: tokens.drop (i + 3) := by
      rw [drop_of_read hsecond, drop_of_read hthird]
    by_cases hbegins : first.image = "void" ∧ second.kind = .identifier ∧ third.image = "("
    · rw [if_pos hbegins] at hnext
      refine ⟨_, hnext, .goesOn ?_ (by simp [start?]), ?_⟩
      · rw [drop_of_read hfirst, htail, voidMethods, if_pos hbegins]
        exact .before ⟨⟨first, hfirst, hbegins.1⟩, ⟨second, hsecond, hbegins.2.1, rfl⟩,
          ⟨third, hthird, hbegins.2.2⟩, Nat.le_refl _, hlt, by simp [slice_of_le]⟩
      · simp only [remaining]
        omega
    · rw [if_neg hbegins] at hnext
      refine ⟨_, hnext, .goesOn ?_ (by simp [start?]), ?_⟩
      · rw [drop_of_read hfirst, htail, voidMethods, if_neg hbegins, ← htail]
        exact .outside (i + 1)
      · simp only [remaining]
        omega
  · refine ⟨⟨sites, .ended⟩, ?_, .goesOn ?_ (by simp [start?]), by simp [remaining]⟩
    · simp only [next, if_neg hlt]
    · rw [voidMethods_eq_nil]
      · exact .ended
      · rw [List.length_drop]
        omega

/-! ### Before a body -/

lemma next_before (sites : List Site) (start : Nat) (name : String)
    (hread : tokens[i]? = some token) :
    next tokens ⟨sites, .before start name i⟩ = some ⟨sites,
      if token.image = "\x7b" then .inside start name i 0 i else .before start name (i + 1)⟩ := by
  have hlt : i < tokens.length := (List.getElem?_eq_some_iff.mp hread).1
  simp only [next, if_pos hlt, hread, Option.bind_eq_bind, Option.bind_some]
  split <;> rfl

lemma exists_steps_before (sites : List Site) (hhead : IsHead tokens start name i) :
    ∃ scan, Steps tokens ⟨sites, .before start name i⟩
      (⟨name, (splitBlock 0 (afterBrace (tokens.drop i))).1⟩
        :: voidMethods (splitBlock 0 (afterBrace (tokens.drop i))).2) scan := by
  by_cases hlt : i < tokens.length
  · obtain ⟨token, hread⟩ := exists_read hlt
    have hnext := next_before sites start name hread
    rw [drop_of_read hread]
    by_cases hopen : token.image = "\x7b"
    · rw [if_pos hopen] at hnext
      refine ⟨_, hnext, .goesOn ?_ (by simp [start?]), ?_⟩
      · rw [afterBrace, if_pos hopen]
        refine .atBrace ⟨hhead, fun other hother => ?_⟩
        rwa [← Option.some.inj (hread.symm.trans hother)]
      · simp only [remaining]
        omega
    · rw [if_neg hopen] at hnext
      refine ⟨_, hnext, .goesOn ?_ (by simp [start?]), ?_⟩
      · rw [afterBrace, if_neg hopen]
        exact .before (hhead.succ hread hopen)
      · simp only [remaining]
        omega
  · refine ⟨⟨sites, .inside start name i 0 i⟩, ?_, .goesOn ?_ (by simp [start?]), ?_⟩
    · simp only [next, if_neg hlt]
    · -- No brace is left: the body is empty and begins after the end.
      have hnone : tokens.drop i = [] := List.drop_eq_nil_of_le (by omega)
      have hnone' : tokens.drop (i + 1) = [] := List.drop_eq_nil_of_le (by omega)
      rw [hnone, afterBrace, ← hnone']
      refine .atBrace ⟨hhead, fun other hother => ?_⟩
      exact absurd (List.getElem?_eq_some_iff.mp hother).1 hlt
    · simp only [remaining]
      omega

/-! ### In a body -/

lemma next_inside {deep : Int} (hread : tokens[i]? = some token) :
    next tokens ⟨sites, .inside start name opening deep i⟩ = some
      (if token.image = "\x7b" then ⟨sites, .inside start name opening (deep + 1) (i + 1)⟩
      else if token.image = "\x7d" then
        if deep - 1 = 0 then ⟨sites ++ [⟨start, name, opening, i⟩], .outside (i + 1)⟩
        else ⟨sites, .inside start name opening (deep - 1) (i + 1)⟩
      else ⟨sites, .inside start name opening deep (i + 1)⟩) := by
  have hlt : i < tokens.length := (List.getElem?_eq_some_iff.mp hread).1
  simp only [next, if_pos hlt, hread, Option.bind_eq_bind, Option.bind_some, apply_ite some]

/-- A body ends where the tokens do. -/
lemma steps_of_length_le {deep : Int} (sites : List Site)
    (hopened : IsOpened tokens start name opening) (hle : opening ≤ i)
    (hlength : i ≤ tokens.length) (hend : tokens.length ≤ i)
    (hfronts : ∀ front, front <+: slice tokens (opening + 1) i →
      countMark "\x7d" front ≤ countMark "\x7b" front) :
    Steps tokens ⟨sites, .inside start name opening deep i⟩
      [⟨name, slice tokens (opening + 1) i⟩]
      ⟨sites ++ [⟨start, name, opening, i⟩], .outside (i + 1)⟩ := by
  have hnot : ¬i < tokens.length := Nat.not_lt.mpr hend
  have hsite : Site.IsMethod tokens ⟨start, name, opening, i⟩ :=
    ⟨hopened, hle, hlength, hfronts, fun hlt => absurd hlt hnot⟩
  have hnone : voidMethods (tokens.drop (i + 1)) = [] := by
    rw [List.drop_eq_nil_of_le (Nat.le_succ_of_le hend), voidMethods_nil]
  refine ⟨?_, .finds hsite (by simp [start?]) (by rw [hnone]; rfl), ?_⟩
  · simp only [next, if_neg hnot]
  · simp only [remaining]
    omega

lemma exists_steps_atBrace (sites : List Site) (hopened : IsOpened tokens start name i) :
    ∃ scan, Steps tokens ⟨sites, .inside start name i 0 i⟩
      (⟨name, (splitBlock 0 (tokens.drop (i + 1))).1⟩
        :: voidMethods (splitBlock 0 (tokens.drop (i + 1))).2) scan := by
  by_cases hlt : i < tokens.length
  · obtain ⟨token, hread⟩ := exists_read hlt
    have hnil : slice tokens (i + 1) (i + 1) = [] := slice_of_le (Nat.le_refl _)
    have hbody : LeavesOpen 0 (slice tokens (i + 1) (i + 1)) := hnil ▸ leavesOpen_nil
    have hpending := Pending.inside hopened (Nat.lt_succ_self i) hlt hbody
    rw [hnil, List.nil_append] at hpending
    refine ⟨⟨sites, .inside start name i (0 + 1) (i + 1)⟩, ?_,
      .goesOn hpending (by simp [start?]), ?_⟩
    · rw [next_inside hread, if_pos (hopened.opens token hread)]
    · simp only [remaining]
      omega
  · have hempty : slice tokens (i + 1) i = [] := slice_of_le (Nat.le_succ i)
    have hnone : tokens.drop (i + 1) = [] := List.drop_eq_nil_of_le (by omega)
    have hsteps : Steps tokens ⟨sites, .inside start name i 0 i⟩ _ _ :=
      steps_of_length_le sites hopened (Nat.le_refl i) hopened.head.le_length (Nat.not_lt.mp hlt)
        (by rw [hempty]; exact leavesOpen_nil.le_of_front)
    rw [hempty] at hsteps
    rw [hnone, splitBlock, voidMethods_nil]
    exact ⟨_, hsteps⟩

/-- A body goes on after one more token. -/
lemma steps_of_read {deep : Int} {depth' : Nat} (sites : List Site)
    (hopened : IsOpened tokens start name opening) (hlt : opening < i)
    (hread : tokens[i]? = some token)
    (hbody : LeavesOpen depth' (slice tokens (opening + 1) i ++ [token]))
    (hsplit : splitBlock depth (token :: tokens.drop (i + 1))
      = (token :: (splitBlock depth' (tokens.drop (i + 1))).1,
        (splitBlock depth' (tokens.drop (i + 1))).2))
    (hnext : next tokens ⟨sites, .inside start name opening deep i⟩
      = some ⟨sites, .inside start name opening (depth' + 1) (i + 1)⟩) :
    Steps tokens ⟨sites, .inside start name opening deep i⟩
      (⟨name, slice tokens (opening + 1) i ++ (splitBlock depth (tokens.drop i)).1⟩
        :: voidMethods (splitBlock depth (tokens.drop i)).2)
      ⟨sites, .inside start name opening (depth' + 1) (i + 1)⟩ := by
  have hslice := slice_succ (Nat.succ_le_of_lt hlt) hread
  have hmore : i < tokens.length := (List.getElem?_eq_some_iff.mp hread).1
  have hpending := Pending.inside hopened (hlt.trans (Nat.lt_succ_self i)) hmore (hslice ▸ hbody)
  rw [hslice, List.append_assoc, List.singleton_append] at hpending
  rw [drop_of_read hread, hsplit]
  refine ⟨hnext, .goesOn hpending (by simp [start?]), ?_⟩
  simp only [remaining]
  omega

/-- A body ends where its block does. -/
lemma steps_of_closing (sites : List Site) (hopened : IsOpened tokens start name opening)
    (hlt : opening < i) (hread : tokens[i]? = some token) (hclose : token.image = "\x7d")
    (hbody : IsBalanced (slice tokens (opening + 1) i)) :
    Steps tokens ⟨sites, .inside start name opening 1 i⟩
      (⟨name, slice tokens (opening + 1) i ++ (splitBlock 0 (tokens.drop i)).1⟩
        :: voidMethods (splitBlock 0 (tokens.drop i)).2)
      ⟨sites ++ [⟨start, name, opening, i⟩], .outside (i + 1)⟩ := by
  have hmore : i < tokens.length := (List.getElem?_eq_some_iff.mp hread).1
  have hopen : token.image ≠ "\x7b" := by rw [hclose]; decide
  have hsite : Site.IsMethod tokens ⟨start, name, opening, i⟩ :=
    ⟨hopened, hlt.le, hmore.le, hbody.le_of_front, fun _ => ⟨⟨token, hread, hclose⟩, hbody⟩⟩
  rw [drop_of_read hread, splitBlock_leaves _ hclose, List.append_nil]
  refine ⟨?_, .finds hsite (by simp [start?]) rfl, ?_⟩
  · rw [next_inside hread, if_neg hopen, if_pos hclose, if_pos (Int.sub_self 1)]
  · simp only [remaining]
    omega

lemma exists_steps_inside (sites : List Site) (hopened : IsOpened tokens start name opening)
    (hlt : opening < i) (hle : i ≤ tokens.length)
    (hbody : LeavesOpen depth (slice tokens (opening + 1) i)) :
    ∃ scan, Steps tokens ⟨sites, .inside start name opening (depth + 1) i⟩
      (⟨name, slice tokens (opening + 1) i ++ (splitBlock depth (tokens.drop i)).1⟩
        :: voidMethods (splitBlock depth (tokens.drop i)).2) scan := by
  by_cases hmore : i < tokens.length
  · obtain ⟨token, hread⟩ := exists_read hmore
    by_cases hopen : token.image = "\x7b"
    · refine ⟨_, steps_of_read sites hopened hlt hread (hbody.opens hopen)
        (splitBlock_opens depth _ hopen) ?_⟩
      rw [next_inside hread, if_pos hopen]
      rfl
    · by_cases hclose : token.image = "\x7d"
      · cases depth with
        | zero => exact ⟨_, steps_of_closing sites hopened hlt hread hclose hbody⟩
        | succ depth =>
            refine ⟨_, steps_of_read sites hopened hlt hread (hbody.closes hclose)
              (splitBlock_closes depth _ hclose) ?_⟩
            have hdeep : ((depth + 1 : Nat) : Int) + 1 - 1 ≠ 0 := by omega
            rw [next_inside hread, if_neg hopen, if_pos hclose, if_neg hdeep, Int.add_sub_cancel]
            rfl
      · refine ⟨_, steps_of_read sites hopened hlt hread (hbody.stays hopen hclose)
          (splitBlock_stays depth _ hopen hclose) ?_⟩
        rw [next_inside hread, if_neg hopen, if_neg hclose]
  · have hend := Nat.not_lt.mp hmore
    rw [List.drop_eq_nil_of_le hend, splitBlock, List.append_nil, voidMethods_nil]
    exact ⟨_, steps_of_length_le sites hopened hlt.le hle hend hbody.le_of_front⟩

/-- **A scan that has not ended takes a step.** -/
lemma exists_steps {scan : Scan} (h : Pending tokens scan.control more)
    (hgoes : scan.control ≠ .ended) : ∃ scan', Steps tokens scan more scan' := by
  obtain ⟨sites, control⟩ := scan
  cases h with
  | outside i => exact exists_steps_outside tokens sites i
  | before hhead => exact exists_steps_before sites hhead
  | atBrace hopened => exact exists_steps_atBrace sites hopened
  | inside hopened hlt hle hbody => exact exists_steps_inside sites hopened hlt hle hbody
  | ended => exact absurd rfl hgoes

end Steps

/-! ## Runs -/

section Runs

variable {tokens : List Token} {methods : List Method} {scan : Scan}

lemma exists_start (h : scan.control ≠ .ended) : ∃ start, start? scan.control = some start := by
  cases hcontrol : scan.control with
  | ended => exact absurd hcontrol h
  | _ => exact ⟨_, rfl⟩

/-- **What holds of a scan holds after one more step.** -/
lemma Sound.next (h : Sound tokens methods scan) (hgoes : scan.control ≠ .ended) :
    ∃ scan', scan.next tokens = some scan' ∧ Sound tokens methods scan' ∧
      remaining tokens scan'.control < remaining tokens scan.control := by
  rcases h.pending with ⟨more, hpending, hmethods⟩
  rcases exists_steps hpending hgoes with ⟨scan', hnext, hadvances, hnearer⟩
  rcases exists_start hgoes with ⟨start, hstart⟩
  refine ⟨scan', hnext, ?_, hnearer⟩
  cases hadvances with
  | goesOn hpending' hlater =>
      refine ⟨⟨more, hpending', hmethods⟩, h.isMethod, h.ordered, fun site hsite later hlast => ?_⟩
      exact (h.before site hsite start hstart).trans_le (hlater start hstart later hlast)
  | @finds site hsite hlater hmore =>
      have hbefore : ∀ earlier ∈ scan.sites, earlier.closing < site.start := fun earlier hearlier =>
        (h.before earlier hearlier start hstart).trans_le (hlater start hstart)
      have hends : site.start < site.closing + 1 := by
        have hhead := hsite.head.le
        have hbody := hsite.le
        omega
      refine ⟨⟨_, .outside _, ?_⟩, ?_, ?_, ?_⟩
      · rw [hmethods, hmore]
        simp
      · exact List.forall_mem_append.mpr ⟨h.isMethod, by simpa using hsite⟩
      · exact List.pairwise_append.mpr
          ⟨h.ordered, List.pairwise_singleton _ _, by simpa using hbefore⟩
      · rintro earlier hearlier later hlast
        obtain rfl : site.closing + 1 = later := by simpa [start?] using hlast
        rcases List.mem_append.mp hearlier with hsite' | hlast
        · exact (hbefore earlier hsite').trans hends
        · rw [List.mem_singleton.mp hlast]
          exact Nat.lt_succ_self _

/-- **A scan with enough steps ends.** -/
lemma Sound.exists_run {steps : Nat} (h : Sound tokens methods scan)
    (hsteps : remaining tokens scan.control ≤ steps) :
    ∃ sites, run tokens steps scan = some ⟨sites, .ended⟩ ∧
      Sound tokens methods ⟨sites, .ended⟩ := by
  -- Each step takes something off what remains, so a scan with nothing left has ended.
  induction steps generalizing scan with
  | zero =>
      obtain ⟨sites, control⟩ := scan
      cases control with
      | ended => exact ⟨sites, rfl, h⟩
      | _ => simp [remaining] at hsteps
  | succ steps ih =>
      by_cases hended : scan.control = .ended
      · have hstays : scan.next tokens = some scan := by rw [Scan.next, hended]
        have hnothing : remaining tokens scan.control ≤ steps := by rw [hended]; exact Nat.zero_le _
        rw [run, hstays]
        exact ih h hnothing
      · obtain ⟨scan', hnext, hsound, hnearer⟩ := h.next hended
        rw [run, hnext]
        exact ih hsound (Nat.le_of_lt_succ (hnearer.trans_le hsteps))

lemma sound_start (tokens : List Token) : Sound tokens (voidMethods tokens) {} :=
  ⟨⟨_, .outside 0, rfl⟩, by simp, by simp, by simp⟩

end Runs

end Scan

/-! ## All methods of some tokens -/

/-- **The sites that a scan finds.** -/
def sites (tokens : List Token) : List Site :=
  ((Scan.run tokens (2 * tokens.length + 3) {}).map Scan.sites).getD []

lemma run_start (tokens : List Token) :
    Scan.run tokens (2 * tokens.length + 3) {} = some ⟨sites tokens, .ended⟩ ∧
      Scan.Sound tokens (voidMethods tokens) ⟨sites tokens, .ended⟩ := by
  have hsteps : Scan.remaining tokens (.outside 0) ≤ 2 * tokens.length + 3 := by
    simp only [Scan.remaining]
    omega
  obtain ⟨found, hrun, hsound⟩ := (Scan.sound_start tokens).exists_run hsteps
  have hsites : sites tokens = found := by rw [sites, hrun]; rfl
  rw [hsites]
  exact ⟨hrun, hsound⟩

/-- **A scan reads no token that is not there, and ends.** -/
theorem run_eq_some_sites (tokens : List Token) :
    Scan.run tokens (2 * tokens.length + 3) {} = some ⟨sites tokens, .ended⟩ :=
  (run_start tokens).1

/-- **A scan finds the methods.** -/
theorem map_method_sites (tokens : List Token) :
    (sites tokens).map (Site.method tokens) = voidMethods tokens := by
  obtain ⟨more, hpending, hmethods⟩ := (run_start tokens).2.pending
  cases hpending
  simpa using hmethods.symm

theorem isMethod_of_mem_sites {tokens : List Token} {site : Site} (h : site ∈ sites tokens) :
    site.IsMethod tokens :=
  (run_start tokens).2.isMethod site h

/-- Each method begins after the end of the one before. -/
theorem pairwise_sites (tokens : List Token) :
    (sites tokens).Pairwise fun site later => site.closing < later.start :=
  (run_start tokens).2.ordered

end GrammarConversion.Code
