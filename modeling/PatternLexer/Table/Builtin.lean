import PatternLexer.Table.Json

set_option autoImplicit false

namespace PatternLexer.Table

def builtinText : String :=
  "\x7b
    \"LEFT_BRACKET\": \"[\",
    \"RIGHT_BRACKET\": \"]\",
    \"LEFT_PARENTHESIS\": \"(\",
    \"RIGHT_PARENTHESIS\": \")\",
    \"LEFT_BRACE\": \"\x7b\",
    \"RIGHT_BRACE\": \"\x7d\",
    \"HAT\": \"^\",
    \"DOLLAR\": \"$\",
    \"MINUS\": \"-\",
    \"COMMA\": \",\",
    \"PIPE\": \"|\",
    \"DOT\": \".\",
    \"STAR\": \"*\",
    \"PLUS\": \"+\",
    \"QUESTION\": \"?\",
    \"COLON\": \":\",
    \"EXCLAMATION\": \"!\",
    \"EQUAL\": \"=\",
    \"LOWER\": \"<\",
    \"GREATER\": \">\",
    \"SLASH\": \"/\",
    \"HASH\": \"#\",
    \"UNDERSCORE\": \"_\",
    \"QUOTE\": \"'\",
    \"DOUBLE_QUOTE\": \"\\\"\",
    \"AMPERSAND\": \"&\",
    \"AT\": \"@\",
    \"PERCENT\": \"%\",
    \"TILDE\": \"~\",
    \"SEMICOLON\": \";\",
    \"BACKTICK\": \"`\",

    \"ANY_DIGIT\": \"d\",
    \"ANY_WORD\": \"w\",
    \"ANY_SPACE\": \"s\",

    \"UNICODE_X\": \"X\",

    \"UNICODE_LETTER\": \"L\",
    \"UNICODE_LOWERCASE_LETTER\": \"Ll\",
    \"UNICODE_UPPERCASE_LETTER\": \"Lu\",
    \"UNICODE_TITLECASE_LETTER\": \"Lt\",
    \"UNICODE_CASED_LETTER\": \"L&\",
    \"UNICODE_MODIFIER_LETTER\": \"Lm\",
    \"UNICODE_OTHER_LETTER\": \"Lo\",
    \"UNICODE_MARK\": \"M\",
    \"UNICODE_NON_SPACING_MARK\": \"Mn\",
    \"UNICODE_SPACING_COMBINING_MARK\": \"Mc\",
    \"UNICODE_ENCLOSING_MARK\": \"Me\",
    \"UNICODE_SEPARATOR\": \"Z\",
    \"UNICODE_SPACE_SEPARATOR\": \"Zs\",
    \"UNICODE_LINE_SEPARATOR\": \"Zl\",
    \"UNICODE_PARAGRAPH_SEPARATOR\": \"Zp\",
    \"UNICODE_SYMBOL\": \"S\",
    \"UNICODE_MATH_SYMBOL\": \"Sm\",
    \"UNICODE_CURRENCY_SYMBOL\": \"Sc\",
    \"UNICODE_MODIFIER_SYMBOL\": \"Sk\",
    \"UNICODE_OTHER_SYMBOL\": \"So\",
    \"UNICODE_NUMBER\": \"N\",
    \"UNICODE_DECIMAL_DIGIT_NUMBER\": \"Nd\",
    \"UNICODE_LETTER_NUMBER\": \"Nl\",
    \"UNICODE_OTHER_NUMBER\": \"No\",
    \"UNICODE_PUNCTUATION\": \"P\",
    \"UNICODE_DASH_PUNCTUATION\": \"Pd\",
    \"UNICODE_OPEN_PUNCTUATION\": \"Ps\",
    \"UNICODE_CLOSE_PUNCTUATION\": \"Pe\",
    \"UNICODE_INITIAL_PUNCTUATION\": \"Pi\",
    \"UNICODE_FINAL_PUNCTUATION\": \"Pf\",
    \"UNICODE_CONNECTOR_PUNCTUATION\": \"Pc\",
    \"UNICODE_OTHER_PUNCTUATION\": \"Po\",
    \"UNICODE_OTHER\": \"C\",
    \"UNICODE_CONTROL\": \"Cc\",
    \"UNICODE_FORMAT\": \"Cf\",
    \"UNICODE_PRIVATE_USE\": \"Co\",
    \"UNICODE_UNASSIGNED\": \"Cn\",
    \"UNICODE_SURROGATE\": \"Cs\",

    \"UNICODE_COMMON\": \"Common\",
    \"UNICODE_ARABIC\": \"Arabic\",
    \"UNICODE_ARMENIAN\": \"Armenian\",
    \"UNICODE_BENGALI\": \"Bengali\",
    \"UNICODE_CYRILLIC\": \"Cyrillic\",
    \"UNICODE_DEVANAGARI\": \"Devanagari\",
    \"UNICODE_GEORGIAN\": \"Georgian\",
    \"UNICODE_GREEK\": \"Greek\",
    \"UNICODE_HAN\": \"Han\",
    \"UNICODE_HANGUL\": \"Hangul\",
    \"UNICODE_HEBREW\": \"Hebrew\",
    \"UNICODE_HIRAGANA\": \"Hiragana\",
    \"UNICODE_KATAKANA\": \"Katakana\",
    \"UNICODE_LATIN\": \"Latin\",
    \"UNICODE_THAI\": \"Thai\",
    \"UNICODE_TIBETAN\": \"Tibetan\"
\x7d
"

def builtin : Except LoadError Table := ofJson builtinText

end PatternLexer.Table
