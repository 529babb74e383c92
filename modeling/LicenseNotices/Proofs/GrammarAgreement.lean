import LicenseNotices.Proofs.ReaderFragment
import Mathlib.Data.List.Forall2

/-!
The grammars agree on the fragment. Each of them gives the comments among the parts of a source, at
the lines and in the columns where these parts stand, although the one counts characters as it goes
and the other takes them from offsets in bytes.
-/
namespace LicenseNotices

open CStyle

/-- The comment is that of the span, and its place is where the span starts. -/
structure IsCommentOf (s : Span) (c : Comment) : Prop where
  kind_eq : c.kind = s.kind
  text_eq : c.text = s.body
  line_eq : c.line = 1 + s.before.count '\n'
  column_eq : c.column = s.before.lastLine.length

theorem isCommentOf_comment (s : Span) : IsCommentOf s s.comment :=
  ⟨rfl, rfl, s.line_comment, s.column_comment⟩

/-- On a source of the fragment both grammars succeed and give the comments among its parts. -/
theorem grammars_agree_on_fragment [JavaScript.Parser] (hlaw : JavaScript.Parser.IsLawful)
    (hreads : JavaScript.Parser.ReadsFragment) {t : Text} {xs : List Lexeme} (h : IsCommon t xs) :
    ∃ cs, (∀ g : Grammar, g.comments t = .ok cs) ∧
      List.Forall₂ IsCommentOf (spansFrom [] xs) cs := by
  refine ⟨_, comments_of_isCommon hlaw hreads h, ?_⟩
  rw [List.forall₂_map_right_iff, List.forall₂_same]
  exact fun s _ => isCommentOf_comment s

/-- Literals that hold the markers of comments, between comments. -/
def fragmentSample : Text :=
  ['/', '/', ' ', '\u00e9', '\n', '\x27', '/', '*', '\x27', ';', '\x60', '\n', '/', '/', '\x60',
    ';', '/', '*', '\x22', '*', '/', '\t', '/', '/']

def sampleParts : List Lexeme :=
  [.lineComment [' ', '\u00e9'], .other '\n', .literal '\x27' ['/', '*'], .other ';',
    .literal '\x60' ['\n', '/', '/'], .other ';', .blockComment ['\x22'], .other '\t',
    .lineComment []]

theorem isCommon_fragmentSample : IsCommon fragmentSample sampleParts := by
  have hempty : IsCommonLine [] := by simp [IsCommonLine]
  have hlast : IsCommon ['\t', '/', '/'] [.other '\t', .lineComment []] :=
    .blank (.inr (.inl rfl)) (@IsCommon.lineComment [] [] [] hempty (by simp) .nil)
  have hblock := @IsCommon.blockComment ['\x22'] _ _ (by decide +kernel) (by simp) hlast
  have htemplate : IsCommonContent '\x60' ['\n', '/', '/'] :=
    ⟨by simp, by simp, by decide +kernel⟩
  have hstring : IsCommonContent '\x27' ['/', '*'] := ⟨by simp, by simp, by simp⟩
  have hliterals := IsCommon.literal rfl hstring (.literal rfl htemplate hblock)
  have hline : IsCommonLine [' ', '\u00e9'] := by simp [IsCommonLine]
  exact .lineComment hline (by simp) (.blank (.inr (.inr rfl)) hliterals)

def sampleComments : List Comment :=
  [{ kind := .line, text := [' ', '\u00e9'], line := 1 },
    { kind := .block, text := ['\x22'], line := 3, column := 4 },
    { kind := .line, text := [], line := 3, column := 10 }]

/-- The readers give the comments that the scanner of the C family finds. -/
theorem grammars_agree_on_sample :
    @JavaScript.comments JavaScript.readerParser fragmentSample = .ok sampleComments := by
  obtain ⟨cs, hcs, -⟩ := @grammars_agree_on_fragment JavaScript.readerParser
    JavaScript.readerParser_isLawful JavaScript.readerParser_readsFragment _ _
    isCommon_fragmentSample
  have hfamily : comments fragmentSample = .ok sampleComments := by
    decide +kernel
  have hsame := hcs .cStyle
  simp only [Grammar.comments, hfamily, Results.mapError_ok, Except.ok.injEq] at hsame
  rw [hsame]
  exact hcs .javascript

end LicenseNotices
