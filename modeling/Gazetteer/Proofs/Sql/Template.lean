import Gazetteer.Proofs.Sql.Tokens
import Gazetteer.Proofs.Text.Numeral

/-!
Templates: readable tokens whose literals hold no colon, so that every placeholder of their text stands
outside literals.  Inlining the text of a template fills its placeholders and changes nothing else.
-/

namespace Gazetteer.Sql

def plain (s : String) : List Token := s.toList.map .char

def isPlain (s : String) : Bool := s.toList.all fun c => c != '\'' && c != ':'

/-- Such a text may follow a value when it begins with no digit. -/
def isFrame (s : String) : Bool := isPlain s && s.toList.head?.any (!Text.isDecimalDigit ·)

def Token.ofIndex (index : Nat) : Token := .placeholder (toString index).toList

structure Template (ts : List Token) : Prop where
  readable : Readable ts
  quiet : ∀ text, .literal text ∈ ts → ':' ∉ text

/-- The characters of a text that is written out need not be decoded from it. -/
theorem plain_spelled {s : String} {cs : List Char} (spelled : s = .ofList cs) : plain s = cs.map .char := by
  rw [spelled, plain, String.toList_ofList]

theorem spelled_append {s t : String} {cs ds : List Char} (left : s = .ofList cs) (right : t = .ofList ds) :
    s ++ t = .ofList (cs ++ ds) := by
  rw [left, right, String.ofList_append]

theorem isPlain_spelled {s : String} {cs : List Char} (spelled : s = .ofList cs)
    (quiet : (cs.all fun c => c != '\'' && c != ':') = true) : isPlain s = true := by
  rwa [spelled, isPlain, String.toList_ofList]

theorem spell_append (xs ys : List Token) : spell (xs ++ ys) = spell xs ++ spell ys :=
  List.flatMap_append

theorem spell_plain (s : String) : spell (plain s) = s.toList := by
  simp [spell, plain, List.flatMap_map, Token.chars]

theorem spell_ofIndex (index : Nat) : spell [.ofIndex index] = (placeholder index).toList := by
  simp [spell, Token.ofIndex, Token.chars, placeholder]

theorem isPlain_append (s t : String) : isPlain (s ++ t) = (isPlain s && isPlain t) := by
  simp [isPlain]

theorem isPlain_of_isFrame {s : String} (frame : isFrame s = true) : isPlain s = true :=
  (Bool.and_eq_true_iff.mp frame).1

theorem isFrame_append {s t : String} (frame : isFrame s = true) (ok : isPlain t = true) :
    isFrame (s ++ t) = true := by
  simp only [isFrame, Bool.and_eq_true] at frame ⊢
  refine ⟨by rw [isPlain_append, frame.1, ok]; rfl, ?_⟩
  cases same : s.toList with
  | nil => simp [same] at frame
  | cons c cs => simpa [same] using frame.2

theorem apart_frame {s : String} (frame : isFrame s = true) (ts : List Token) : Apart (plain s ++ ts) := by
  have head := (Bool.and_eq_true_iff.mp frame).2
  cases same : s.toList with
  | nil => simp [same] at head
  | cons c cs =>
    have no_digit : Text.isDecimalDigit c = false := by simpa [same] using head
    simpa [plain, same] using Apart.char no_digit

theorem apart_plain {s : String} (frame : isFrame s = true) : Apart (plain s) := by
  simpa using apart_frame frame []

namespace Template

theorem nil : Template [] := ⟨.nil, by simp⟩

theorem append {xs ys : List Token} (hx : Template xs) (hy : Template ys) (apart : Apart ys) :
    Template (xs ++ ys) := by
  refine ⟨hx.readable.append hy.readable apart, ?_⟩
  intro text member
  rcases List.mem_append.mp member with left | right
  · exact hx.quiet text left
  · exact hy.quiet text right

theorem plain_append {s : String} {ts : List Token} (ok : isPlain s = true) (ht : Template ts) :
    Template (plain s ++ ts) := by
  have safe : ∀ c ∈ s.toList, c ≠ '\'' ∧ c ≠ ':' := by simpa [isPlain] using ok
  unfold plain
  generalize s.toList = cs at safe
  induction cs with
  | nil => exact ht
  | cons c cs ih =>
    obtain ⟨no_quote, no_colon⟩ := safe c List.mem_cons_self
    have rest := ih fun d member => safe d (List.mem_cons_of_mem _ member)
    refine ⟨.char no_quote no_colon rest.readable, ?_⟩
    intro text member
    exact rest.quiet text (by simpa using member)

theorem plain {s : String} (ok : isPlain s = true) : Template (plain s) := by
  simpa using plain_append ok nil

theorem append_plain {s : String} {ts : List Token} (ht : Template ts) (frame : isFrame s = true) :
    Template (ts ++ Sql.plain s) :=
  ht.append (plain (isPlain_of_isFrame frame)) (apart_plain frame)

theorem ofIndex (index : Nat) {ts : List Token} (ht : Template ts) (apart : Apart ts) :
    Template (.ofIndex index :: ts) := by
  have digits : ∀ d ∈ (toString index).toList, Text.isDecimalDigit d = true :=
    fun d member => Text.isDecimalDigit_of_isDigit (Text.isDigit_of_mem_toString member)
  refine ⟨.placeholder (Text.toString_toList_ne_nil index) digits apart ht.readable, ?_⟩
  intro text member
  exact ht.quiet text (by simpa [Token.ofIndex] using member)

theorem emptyLiteral : Template [.literal []] := ⟨.literal .nil .nil, by simp⟩

theorem intercalate {separator : String} {parts : List (List Token)} (frame : isFrame separator = true)
    (templates : ∀ ts ∈ parts, Template ts) : Template ((Sql.plain separator).intercalate parts) := by
  induction parts with
  | nil => exact nil
  | cons first rest ih =>
    have head := templates first List.mem_cons_self
    cases rest with
    | nil => simpa using head
    | cons second rest =>
      have tail := ih fun ts member => templates ts (List.mem_cons_of_mem _ member)
      rw [List.intercalate_cons_cons, List.append_assoc]
      exact head.append (plain_append (isPlain_of_isFrame frame) tail) (apart_frame frame _)

end Template

end Gazetteer.Sql
