import Rollout.Unicode.Category
import Rollout.Unicode.Listed

namespace Rollout.Unicode

def alphabetic : CharSet :=
  .unions [ofCategories (.letterNumber :: Category.letters), otherLowercase, otherUppercase,
    otherAlphabetic]

def lowercase : CharSet := (ofCategories [.lowercaseLetter]).union otherLowercase

def uppercase : CharSet := (ofCategories [.uppercaseLetter]).union otherUppercase

def graphemeExtend : CharSet :=
  (ofCategories [.enclosingMark, .nonspacingMark]).union otherGraphemeExtend

def decimalDigits : CharSet := ofCategories [.decimalNumber]

def wordCharacters : CharSet :=
  .unions [alphabetic, ofCategories Category.marks, decimalDigits,
    ofCategories [.connectorPunctuation], joinControls]

inductive BinaryProperty
  | asciiHexDigit
  | alphabetic
  | bidiControl
  | bidiMirrored
  | caseIgnorable
  | cased
  | changesWhenCasefolded
  | changesWhenCasemapped
  | changesWhenLowercased
  | changesWhenTitlecased
  | changesWhenUppercased
  | dash
  | defaultIgnorable
  | deprecated
  | diacritic
  | emoji
  | emojiComponent
  | emojiModifier
  | emojiModifierBase
  | emojiPresentation
  | extendedPictographic
  | extender
  | graphemeBase
  | graphemeExtend
  | graphemeLink
  | hexDigit
  | hyphen
  | idsBinaryOperator
  | idsTrinaryOperator
  | idsUnaryOperator
  | idCompatMathContinue
  | idCompatMathStart
  | idContinue
  | idStart
  | ideographic
  | joinControl
  | logicalOrderException
  | lowercase
  | math
  | modifierCombiningMark
  | noncharacter
  | otherAlphabetic
  | otherDefaultIgnorable
  | otherGraphemeExtend
  | otherIdContinue
  | otherIdStart
  | otherLowercase
  | otherMath
  | otherUppercase
  | patternSyntax
  | patternWhiteSpace
  | prependedConcatenationMark
  | quotationMark
  | radical
  | regionalIndicator
  | sentenceTerminal
  | softDotted
  | terminalPunctuation
  | unifiedIdeograph
  | uppercase
  | variationSelector
  | whiteSpace
  | xidContinue
  | xidStart
  deriving DecidableEq, Repr

namespace BinaryProperty

def named? : String → Option BinaryProperty
  | "asciihexdigit" | "ahex" => some asciiHexDigit
  | "alphabetic" | "alpha" => some alphabetic
  | "bidicontrol" | "bidic" => some bidiControl
  | "bidimirrored" | "bidim" => some bidiMirrored
  | "caseignorable" | "ci" => some caseIgnorable
  | "cased" => some cased
  | "changeswhencasefolded" | "cwcf" => some changesWhenCasefolded
  | "changeswhencasemapped" | "cwcm" => some changesWhenCasemapped
  | "changeswhenlowercased" | "cwl" => some changesWhenLowercased
  | "changeswhentitlecased" | "cwt" => some changesWhenTitlecased
  | "changeswhenuppercased" | "cwu" => some changesWhenUppercased
  | "dash" => some dash
  | "defaultignorablecodepoint" | "di" => some defaultIgnorable
  | "deprecated" | "dep" => some deprecated
  | "diacritic" | "dia" => some diacritic
  | "emoji" => some emoji
  | "emojicomponent" | "ecomp" => some emojiComponent
  | "emojimodifier" | "emod" => some emojiModifier
  | "emojimodifierbase" | "ebase" => some emojiModifierBase
  | "emojipresentation" | "epres" => some emojiPresentation
  | "extendedpictographic" | "extpict" => some extendedPictographic
  | "extender" | "ext" => some extender
  | "graphemebase" | "grbase" => some graphemeBase
  | "graphemeextend" | "grext" => some graphemeExtend
  | "graphemelink" | "grlink" => some graphemeLink
  | "hexdigit" | "hex" => some hexDigit
  | "hyphen" => some hyphen
  | "idsbinaryoperator" | "idsb" => some idsBinaryOperator
  | "idstrinaryoperator" | "idst" => some idsTrinaryOperator
  | "idsunaryoperator" | "idsu" => some idsUnaryOperator
  | "idcompatmathcontinue" => some idCompatMathContinue
  | "idcompatmathstart" => some idCompatMathStart
  | "idcontinue" | "idc" => some idContinue
  | "idstart" | "ids" => some idStart
  | "ideographic" | "ideo" => some ideographic
  | "joincontrol" | "joinc" => some joinControl
  | "logicalorderexception" | "loe" => some logicalOrderException
  | "lowercase" | "lower" => some lowercase
  | "math" => some math
  | "modifiercombiningmark" | "mcm" => some modifierCombiningMark
  | "noncharactercodepoint" | "nchar" => some noncharacter
  | "otheralphabetic" | "oalpha" => some otherAlphabetic
  | "otherdefaultignorablecodepoint" | "odi" => some otherDefaultIgnorable
  | "othergraphemeextend" | "ogrext" => some otherGraphemeExtend
  | "otheridcontinue" | "oidc" => some otherIdContinue
  | "otheridstart" | "oids" => some otherIdStart
  | "otherlowercase" | "olower" => some otherLowercase
  | "othermath" | "omath" => some otherMath
  | "otheruppercase" | "oupper" => some otherUppercase
  | "patternsyntax" | "patsyn" => some patternSyntax
  | "patternwhitespace" | "patws" => some patternWhiteSpace
  | "prependedconcatenationmark" | "pcm" => some prependedConcatenationMark
  | "quotationmark" | "qmark" => some quotationMark
  | "radical" => some radical
  | "regionalindicator" | "ri" => some regionalIndicator
  | "sentenceterminal" | "sterm" => some sentenceTerminal
  | "softdotted" | "sd" => some softDotted
  | "terminalpunctuation" | "term" => some terminalPunctuation
  | "unifiedideograph" | "uideo" => some unifiedIdeograph
  | "uppercase" | "upper" => some uppercase
  | "variationselector" | "vs" => some variationSelector
  | "whitespace" | "wspace" | "space" => some whiteSpace
  | "xidcontinue" | "xidc" => some xidContinue
  | "xidstart" | "xids" => some xidStart
  | _ => none

def outsidePatterns (s : CharSet) : CharSet :=
  (s.diff Unicode.patternSyntax).diff Unicode.patternWhiteSpace

def identifierStart : CharSet :=
  outsidePatterns (.unions [ofCategories (.letterNumber :: Category.letters), Unicode.otherIdStart])

def identifierContinue : CharSet :=
  outsidePatterns (.unions [identifierStart,
    ofCategories [.nonspacingMark, .spacingMark, .decimalNumber, .connectorPunctuation],
    Unicode.otherIdContinue])

def spacedForms : CharSet :=
  ofCodePoints [(0x37A, 0x37A), (0x309B, 0x309C), (0xFC5E, 0xFC63), (0xFDFA, 0xFDFB),
    (0xFE70, 0xFE70), (0xFE72, 0xFE72), (0xFE74, 0xFE74), (0xFE76, 0xFE76), (0xFE78, 0xFE78),
    (0xFE7A, 0xFE7A), (0xFE7C, 0xFE7C), (0xFE7E, 0xFE7E)]

def markedForms : CharSet :=
  ofCodePoints [(0xE33, 0xE33), (0xEB3, 0xEB3), (0xFF9E, 0xFF9F)]

def changedByTitlecasing : CharSet :=
  let titled := ofCodePoints [(0x1C5, 0x1C5), (0x1C8, 0x1C8), (0x1CB, 0x1CB), (0x1F2, 0x1F2),
    (0x10D0, 0x10FA), (0x10FD, 0x10FF), (0x1F88, 0x1F8F), (0x1F98, 0x1F9F), (0x1FA8, 0x1FAF),
    (0x1FBC, 0x1FBC), (0x1FCC, 0x1FCC), (0x1FFC, 0x1FFC)]
  let digraphs := ofCodePoints [(0x1C4, 0x1C4), (0x1C7, 0x1C7), (0x1CA, 0x1CA), (0x1F1, 0x1F1)]
  (changedByUppercasing.diff titled).union digraphs

def changedByFolding : CharSet :=
  let folded := ofCodePoints [(0xB5, 0xB5), (0xDF, 0xDF), (0x149, 0x149), (0x17F, 0x17F),
    (0x345, 0x345), (0x3C2, 0x3C2), (0x3D0, 0x3D1), (0x3D5, 0x3D6), (0x3F0, 0x3F1), (0x3F5, 0x3F5),
    (0x587, 0x587), (0x13F8, 0x13FD), (0x1C80, 0x1C88), (0x1E9A, 0x1E9B), (0x1F80, 0x1F87),
    (0x1F90, 0x1F97), (0x1FA0, 0x1FA7), (0x1FB2, 0x1FB4), (0x1FB7, 0x1FB7), (0x1FC2, 0x1FC4),
    (0x1FC7, 0x1FC7), (0x1FF2, 0x1FF4), (0x1FF7, 0x1FF7), (0xAB70, 0xABBF), (0xFB00, 0xFB06),
    (0xFB13, 0xFB17)]
  (changedByLowercasing.diff (ofCodePoints [(0x13A0, 0x13F5)])).union folded

def wordMarks : CharSet :=
  ofCodePoints [(0x27, 0x27), (0x2E, 0x2E), (0x3A, 0x3A), (0xB7, 0xB7), (0x387, 0x387),
    (0x55F, 0x55F), (0x5F4, 0x5F4), (0x2018, 0x2019), (0x2024, 0x2024), (0x2027, 0x2027),
    (0xFE13, 0xFE13), (0xFE52, 0xFE52), (0xFE55, 0xFE55), (0xFF07, 0xFF07), (0xFF0E, 0xFF0E),
    (0xFF1A, 0xFF1A)]

def ignorable : CharSet :=
  let annotations := ofCodePoints [(0xFFF9, 0xFFFB), (0x13430, 0x13440)]
  (((CharSet.unions [ofCategories [.format], Unicode.otherDefaultIgnorable, variationSelectors]).diff
    Unicode.whiteSpace).diff annotations).diff prependedMarks

def graphic : CharSet :=
  .diff .full (ofCategories (.lineSeparator :: .paragraphSeparator :: Category.others))

def chars : BinaryProperty → CharSet
  | asciiHexDigit => asciiHexDigits
  | alphabetic => Unicode.alphabetic
  | bidiControl => bidiControls
  | bidiMirrored => Unicode.bidiMirrored
  | caseIgnorable =>
    (ofCategories [.nonspacingMark, .enclosingMark, .format, .modifierLetter,
      .modifierSymbol]).union wordMarks
  | cased => .unions [Unicode.lowercase, Unicode.uppercase, ofCategories [.titlecaseLetter]]
  | changesWhenCasefolded => changedByFolding
  | changesWhenCasemapped =>
    .unions [changedByLowercasing, changedByUppercasing, changedByTitlecasing]
  | changesWhenLowercased => changedByLowercasing
  | changesWhenTitlecased => changedByTitlecasing
  | changesWhenUppercased => changedByUppercasing
  | dash => dashes
  | defaultIgnorable => ignorable
  | deprecated => Unicode.deprecated
  | diacritic => diacritics
  | emoji => Unicode.emoji
  | emojiComponent => emojiComponents
  | emojiModifier => emojiModifiers
  | emojiModifierBase => emojiModifierBases
  | emojiPresentation => Unicode.emojiPresentation
  | extendedPictographic => Unicode.extendedPictographic
  | extender => extenders
  | graphemeBase => graphic.diff Unicode.graphemeExtend
  | graphemeExtend => Unicode.graphemeExtend
  | graphemeLink => graphemeLinks
  | hexDigit => hexDigits
  | hyphen => hyphens
  | idsBinaryOperator => idsBinaryOperators
  | idsTrinaryOperator => idsTrinaryOperators
  | idsUnaryOperator => idsUnaryOperators
  | idCompatMathContinue => Unicode.idCompatMathContinue
  | idCompatMathStart => Unicode.idCompatMathStart
  | idContinue => identifierContinue
  | idStart => identifierStart
  | ideographic => Unicode.ideographic
  | joinControl => joinControls
  | logicalOrderException => logicalOrderExceptions
  | lowercase => Unicode.lowercase
  | math => (ofCategories [.mathSymbol]).union Unicode.otherMath
  | modifierCombiningMark => modifierCombiningMarks
  | noncharacter => noncharacters
  | otherAlphabetic => Unicode.otherAlphabetic
  | otherDefaultIgnorable => Unicode.otherDefaultIgnorable
  | otherGraphemeExtend => Unicode.otherGraphemeExtend
  | otherIdContinue => Unicode.otherIdContinue
  | otherIdStart => Unicode.otherIdStart
  | otherLowercase => Unicode.otherLowercase
  | otherMath => Unicode.otherMath
  | otherUppercase => Unicode.otherUppercase
  | patternSyntax => Unicode.patternSyntax
  | patternWhiteSpace => Unicode.patternWhiteSpace
  | prependedConcatenationMark => prependedMarks
  | quotationMark => quotationMarks
  | radical => radicals
  | regionalIndicator => regionalIndicators
  | sentenceTerminal => sentenceTerminals
  | softDotted => Unicode.softDotted
  | terminalPunctuation => Unicode.terminalPunctuation
  | unifiedIdeograph => unifiedIdeographs
  | uppercase => Unicode.uppercase
  | variationSelector => variationSelectors
  | whiteSpace => Unicode.whiteSpace
  | xidContinue => identifierContinue.diff spacedForms
  | xidStart => (identifierStart.diff spacedForms).diff markedForms

end BinaryProperty

end Rollout.Unicode
