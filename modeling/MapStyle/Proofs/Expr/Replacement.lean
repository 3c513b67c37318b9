import MapStyle.Proofs.Expr.Substitution
import MapStyle.Proofs.Placeholder.Spots

/-!
# Which placeholders are replaced

The parser and the scan for references see the same placeholders in the text of an expression, and
neither of them minds blanks between the braces. The replacement of defines looks into strings, and
takes the blanks for a part of the name. Where that makes no difference to the defines it sees the
references, and then the placeholders are replaced in the tree.
-/

namespace MapStyle.Expr

open Text Placeholder

variable {defines : Table String} {e : Expr}

theorem listed_string {quote : Char} {text chars : List Char} (hquote : IsQuote quote)
    (h : Quoted quote text chars) (rest : List Char) :
    listed (quote :: (text ++ [quote]) ++ rest) = listed rest := by
  have hbackslash : quote ≠ '\\' := by rcases hquote with rfl | rfl <;> decide
  have hafter := Spells.afterQuote_of_stringRest (Parser.stringRest_append hbackslash h rest)
  rw [List.cons_append, List.append_assoc, List.singleton_append, listed_quote hquote, hafter.1]

theorem stepwise_respell (f : Spot → List Char) :
    Stepwise fun rest s s' ↦ respell f (s ++ rest) = s' ++ respell f rest where
  append h h' := by rw [List.append_assoc, h, h', List.append_assoc]
  neutral rest h := respell_append (listed_append_of_neutral h rest)
  string rest hquote h := respell_append (listed_string hquote h rest)

/-- Where every reference is written as a phrase of the tree that it is replaced by, the whole is
the text of the tree with the placeholders replaced. -/
theorem parse?_respell {source : String} (h : parse? source = some e) {f : Spot → List Char}
    {trees : String → Option Expr}
    (hf : ∀ {p : Spot} {e : Expr}, (∀ c ∈ p.body, c ≠ '}') → Parser.placeholderOf? p.body = some e →
      Phrase .primary (f p) (e.substitute trees) ∧ Rank.primary.Keeps p.text (f p)) :
    parse? (String.ofList (respell f source.toList)) = some (e.substitute trees) := by
  have hplaceholder {body : List Char} {e : Expr} (hbody : ∀ c ∈ body, c ≠ '}')
      (he : Parser.placeholderOf? body = some e) :
      Changes (fun rest s s' ↦ respell f (s ++ rest) = s' ++ respell f rest) trees .primary
        ('$' :: '{' :: (body ++ ['}'])) e := by
    intro rest
    obtain ⟨hphrase, hkeeps⟩ := hf (p := ⟨body, rest⟩) hbody he
    refine ⟨_, ?_, hphrase, hkeeps⟩
    simpa using respell_placeholder hbody rest
  obtain ⟨s', hs', hphrase, -⟩ :=
    (parse?_eq_some_iff.mp h).changes (stepwise_respell f) hplaceholder []
  have hnil : respell f [] = [] := by rw [respell, listed, List.map_nil, replaceAt]
  rw [List.append_nil, hnil, List.append_nil] at hs'
  exact parse?_of_phrase (by rwa [String.toList_ofList, hs'])

/-! ## Blanks -/

mutual

/-- Nothing is replaced where nothing is defined. -/
theorem substitute_none : ∀ e : Expr, e.substitute (fun _ ↦ none) = e
  | .literal _ | .placeholder _ | .path _ | .feature => by simp only [substitute, Option.getD_none]
  | .array items => by rw [substitute, substituteAll_none items]
  | .unary op operand => by rw [substitute, substitute_none operand]
  | .binary op lhs rhs => by rw [substitute, substitute_none lhs, substitute_none rhs]
  | .conditional test consequent alternate => by
    rw [substitute, substitute_none test, substitute_none consequent, substitute_none alternate]
  | .member object key => by rw [substitute, substitute_none object, substitute_none key]
  | .call name args => by rw [substitute, substituteAll_none args]
  | .method object name args => by
    rw [substitute, substitute_none object, substituteAll_none args]

theorem substituteAll_none : ∀ es : List Expr, substituteAll (fun _ ↦ none) es = es
  | [] => rfl
  | e :: rest => by rw [substituteAll, substitute_none e, substituteAll_none rest]

end

/-- Blanks inside the braces of a reference make no difference to the tree. -/
theorem parse?_pad {source : String} (h : parse? source = some e) {before behind : Spot → List Char}
    (hblank : ∀ p, ∀ c ∈ before p ++ behind p, isBlank c = true) :
    parse? (String.ofList (respell (pad before behind) source.toList)) = some e := by
  rw [← substitute_none e]
  refine parse?_respell h fun {p e} hbody he ↦ ?_
  rw [substitute_none]
  refine ⟨.placeholder (fun c hc ↦ ?_) ?_, keeps_of_mem (c := '$') _ (by simp [pad]) rfl rfl⟩
  · rintro rfl
    have hbrace : '}' ∈ before p ++ behind p := by
      have hnot : '}' ∉ p.body := fun hmem ↦ hbody _ hmem rfl
      simpa [hnot] using hc
    exact absurd (hblank p _ hbrace) (by decide)
  · rw [← placeholderOf?_trim, trim_append_of_isBlank, placeholderOf?_trim, he]
    · exact fun c hc ↦ hblank p c (by simp [hc])
    · exact fun c hc ↦ hblank p c (by simp [hc])

/-! ## Defines -/

/-- What belongs in the place of a reference denotes the tree that its tree is replaced by. -/
theorem phrase_dueText (hdefines : DefinesExpressions defines) {p : Spot}
    (hbody : ∀ c ∈ p.body, c ≠ '}') (h : Parser.placeholderOf? p.body = some e) :
    Phrase .primary (dueText defines p) (e.substitute (definedTrees defines)) := by
  rw [substitute_of_placeholderOf? h, definedTrees, dueText, Spot.label]
  cases htext : Table.get? defines (String.ofList (trim p.body)) with
  | some text =>
    obtain ⟨tree, htree⟩ := Option.isSome_iff_exists.mp (hdefines _ text htext)
    rw [Option.bind_some, htree]
    exact .parens (parse?_eq_some_iff.mp htree)
  | none => exact .placeholder hbody h

/-- Where the replacement of defines sees the references, it replaces the placeholders in the
tree. -/
theorem parse?_replaceDefines_of_sees {source : String} (h : parse? source = some e)
    (hsees : SeesReferences defines source.toList) (hdefines : DefinesExpressions defines) :
    parse? (replaceDefines (some defines) source) = some (e.substitute (definedTrees defines)) := by
  rw [replaceDefines, expand_eq_replaceAt, substituted_eq_due_iff.mpr hsees, ← respell_dueText]
  refine parse?_respell h fun {p e} hbody he ↦ ⟨phrase_dueText hdefines hbody he, ?_⟩
  unfold dueText
  cases Table.get? defines (String.ofList p.label) with
  | some text => exact keeps_of_mem (c := '(') _ (by simp [inParens]) rfl rfl
  | none => exact keeps_self _ _

/-- The replacement of defines replaces some of the placeholders in the text of an expression, and
leaves all other text. These are the references that are named for a define just where the
replacement sees the references. They are so whatever is defined just where no placeholder that is
closed opens in a string, and no reference has blanks at its ends. Where the references are seen,
the placeholders are replaced in the tree. Blanks that are added inside the braces of references, at
any places, make no difference to the parser, and none to the tree with the defines replaced where
the references are still seen. -/
theorem replaceDefines_references {source : String} (h : parse? source = some e) :
    (∀ defines : Table String,
      (replaceDefines (some defines) source).toList
          = replaceAt (substituted defines source.toList) source.toList ∧
        (substituted defines source.toList = due defines source.toList ↔
          SeesReferences defines source.toList) ∧
        (SeesReferences defines source.toList → DefinesExpressions defines →
          parse? (replaceDefines (some defines) source)
            = some (e.substitute (definedTrees defines)))) ∧
      ((∀ defines, substituted defines source.toList = due defines source.toList) ↔
        Sealed source.toList ∧ ∀ p ∈ listed source.toList, p.label = p.body) ∧
      ∀ before behind : Spot → List Char, (∀ p, ∀ c ∈ before p ++ behind p, isBlank c = true) →
        let padded := String.ofList (respell (pad before behind) source.toList)
        parse? padded = some e ∧
          ∀ defines, SeesReferences defines padded.toList → DefinesExpressions defines →
            parse? (replaceDefines (some defines) padded)
              = some (e.substitute (definedTrees defines)) := by
  refine ⟨fun defines ↦ ⟨?_, substituted_eq_due_iff, parse?_replaceDefines_of_sees h⟩, ?_,
    fun before behind hblank ↦ ?_⟩
  · rw [replaceDefines, String.toList_ofList, expand_eq_replaceAt]
  · simp only [substituted_eq_due_iff]
    exact forall_seesReferences_iff
  · have hpadded := parse?_pad h hblank
    exact ⟨hpadded, fun defines ↦ parse?_replaceDefines_of_sees hpadded⟩

/-- The string holds a placeholder, but of a name that is not defined, and blanks around another
such name make no difference. -/
theorem replaceDefines_references_size :
    let defines : Table String := [("size", "$\x7bheight\x7d || null")]
    let replaced : Expr := .binary .add
      (.binary .add (.binary .or (.placeholder "height") (.literal .null)) (.placeholder "x"))
      (.literal (.string "$\x7bwidth\x7d"))
    parse? (replaceDefines (some defines) "$\x7bsize\x7d + $\x7bx\x7d + '$\x7bwidth\x7d'")
        = some replaced ∧
      parse? (replaceDefines (some defines) "$\x7bsize\x7d + $\x7b x \x7d + '$\x7bwidth\x7d'")
        = some replaced := by
  intro defines replaced
  have hsource : parse? "$\x7bsize\x7d + $\x7bx\x7d + '$\x7bwidth\x7d'"
      = some (.binary .add (.binary .add (.placeholder "size") (.placeholder "x"))
        (.literal (.string "$\x7bwidth\x7d"))) := by
    cbv
  have htext : parse? "$\x7bheight\x7d || null"
      = some (.binary .or (.placeholder "height") (.literal .null)) := by
    cbv
  have hdefines : DefinesExpressions defines := by
    intro name text hname
    simp only [defines, Table.get?, Option.ite_none_right_eq_some, Option.some.injEq] at hname
    rw [← hname.2, htext]
    rfl
  have hsize : definedTrees defines "size"
      = some (.binary .or (.placeholder "height") (.literal .null)) := by
    rw [definedTrees, Table.get?, if_pos rfl, Option.bind_some, htext]
  have hx : definedTrees defines "x" = none := rfl
  let blank (p : Spot) : List Char := if p.body = ['x'] then [' '] else []
  have hblank : ∀ p, ∀ c ∈ blank p ++ blank p, isBlank c = true := by
    intro p c hc
    by_cases hbody : p.body = ['x'] <;> simp_all [blank]
    rfl
  obtain ⟨hreplaces, -, hpad⟩ := replaceDefines_references hsource
  have hreplaced := (hreplaces defines).2.2
  have hpadded := (hpad blank blank hblank).2 defines
  have htext' : String.ofList (respell (pad blank blank)
      "$\x7bsize\x7d + $\x7bx\x7d + '$\x7bwidth\x7d'".toList)
        = "$\x7bsize\x7d + $\x7b x \x7d + '$\x7bwidth\x7d'" := by
    cbv
  rw [htext'] at hpadded
  simp only [substitute, hsize, hx, Option.getD_some, Option.getD_none] at hreplaced hpadded
  refine ⟨hreplaced ?_ hdefines, hpadded ?_ hdefines⟩
  · exact substituted_eq_due_iff.mp (by cbv)
  · exact substituted_eq_due_iff.mp (by cbv)

/-- A placeholder in a string is no reference, and is replaced all the same. A reference with blanks
is a reference, and is not. -/
theorem quoted_substituted :
    let defines : Table String := [("x", "true")]
    let quoted := "'$\x7bx\x7d'"
    let valueOf (source : String) :=
      (parse? (replaceDefines (some defines) source)).map (eval ⟨none, []⟩)
    parse? quoted = some (.literal (.string "$\x7bx\x7d")) ∧ references quoted = [] ∧
      substituted defines quoted.toList ≠ due defines quoted.toList ∧
      replaceDefines (some defines) quoted = "'(true)'" ∧
      parse? "$\x7b x \x7d" = parse? "$\x7bx\x7d" ∧
      valueOf "$\x7bx\x7d" = some (.ok (.bool true)) ∧
      valueOf "$\x7b x \x7d" = some (.ok .undefined) := by
  refine ⟨?_, ?_, ?_, ?_, ?_, ?_, ?_⟩
  · cbv
  · cbv
  · cbv
    exact List.cons_ne_nil _ _
  · cbv
  · cbv
  · cbv
  · cbv

end MapStyle.Expr
