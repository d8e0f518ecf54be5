/-
Names of the characters of the alphabets that are written most, up to U+13FF.
-/

namespace EntityScaffold.Text.CharacterName

def alphabetNames : String := "
  @20 SPACE EXCLAMATION_MARK QUOTATION_MARK NUMBER_SIGN DOLLAR_SIGN PERCENT_SIGN AMPERSAND
  APOSTROPHE LEFT_PARENTHESIS RIGHT_PARENTHESIS ASTERISK PLUS_SIGN COMMA HYPHEN-MINUS FULL_STOP
  SOLIDUS DIGIT_: ZERO ONE TWO THREE FOUR FIVE SIX SEVEN EIGHT NINE : COLON SEMICOLON
  LESS-THAN_SIGN EQUALS_SIGN GREATER-THAN_SIGN QUESTION_MARK COMMERCIAL_AT LATIN_CAPITAL_LETTER_: A
  B C D E F G H I J K L M N O P Q R S T U V W X Y Z : LEFT_SQUARE_BRACKET REVERSE_SOLIDUS
  RIGHT_SQUARE_BRACKET CIRCUMFLEX_ACCENT LOW_LINE GRAVE_ACCENT LATIN_SMALL_LETTER_: A B C D E F G H
  I J K L M N O P Q R S T U V W X Y Z : LEFT_CURLY_BRACKET VERTICAL_LINE RIGHT_CURLY_BRACKET TILDE
  @A0 NO-BREAK_SPACE INVERTED_EXCLAMATION_MARK CENT_SIGN POUND_SIGN CURRENCY_SIGN YEN_SIGN
  BROKEN_BAR SECTION_SIGN DIAERESIS COPYRIGHT_SIGN FEMININE_ORDINAL_INDICATOR
  LEFT-POINTING_DOUBLE_ANGLE_QUOTATION_MARK NOT_SIGN SOFT_HYPHEN REGISTERED_SIGN MACRON DEGREE_SIGN
  PLUS-MINUS_SIGN SUPERSCRIPT_: TWO THREE : ACUTE_ACCENT MICRO_SIGN PILCROW_SIGN MIDDLE_DOT CEDILLA
  SUPERSCRIPT_ONE MASCULINE_ORDINAL_INDICATOR RIGHT-POINTING_DOUBLE_ANGLE_QUOTATION_MARK
  VULGAR_FRACTION_: ONE_QUARTER ONE_HALF THREE_QUARTERS INVERTED_QUESTION_: MARK
  LATIN_CAPITAL_LETTER_A_WITH_: GRAVE ACUTE CIRCUMFLEX TILDE DIAERESIS RING_ABOVE
  LATIN_CAPITAL_LETTER_: AE C_WITH_CEDILLA E_WITH_GRAVE E_WITH_ACUTE E_WITH_CIRCUMFLEX
  E_WITH_DIAERESIS I_WITH_GRAVE I_WITH_ACUTE I_WITH_CIRCUMFLEX I_WITH_DIAERESIS ETH N_WITH_TILDE
  LATIN_CAPITAL_LETTER_O_WITH_: GRAVE ACUTE CIRCUMFLEX TILDE DIAERESIS MULTIPLICATION_: SIGN
  LATIN_CAPITAL_LETTER_: O_WITH_STROKE U_WITH_GRAVE U_WITH_ACUTE U_WITH_CIRCUMFLEX U_WITH_DIAERESIS
  Y_WITH_ACUTE THORN LATIN_SMALL_LETTER_: SHARP_S A_WITH_GRAVE A_WITH_ACUTE A_WITH_CIRCUMFLEX
  A_WITH_TILDE A_WITH_DIAERESIS A_WITH_RING_ABOVE AE C_WITH_CEDILLA E_WITH_GRAVE E_WITH_ACUTE
  E_WITH_CIRCUMFLEX E_WITH_DIAERESIS I_WITH_GRAVE I_WITH_ACUTE I_WITH_CIRCUMFLEX I_WITH_DIAERESIS
  ETH N_WITH_TILDE LATIN_SMALL_LETTER_O_WITH_: GRAVE ACUTE CIRCUMFLEX TILDE DIAERESIS DIVISION_:
  SIGN LATIN_SMALL_LETTER_: O_WITH_STROKE U_WITH_GRAVE U_WITH_ACUTE U_WITH_CIRCUMFLEX
  U_WITH_DIAERESIS Y_WITH_ACUTE THORN Y_WITH_DIAERESIS LATIN_: CAPITAL_LETTER_A_WITH_MACRON
  SMALL_LETTER_A_WITH_MACRON CAPITAL_LETTER_A_WITH_BREVE SMALL_LETTER_A_WITH_BREVE
  CAPITAL_LETTER_A_WITH_OGONEK SMALL_LETTER_A_WITH_OGONEK CAPITAL_LETTER_C_WITH_ACUTE
  SMALL_LETTER_C_WITH_ACUTE CAPITAL_LETTER_C_WITH_CIRCUMFLEX SMALL_LETTER_C_WITH_CIRCUMFLEX
  CAPITAL_LETTER_C_WITH_DOT_ABOVE SMALL_LETTER_C_WITH_DOT_ABOVE CAPITAL_LETTER_C_WITH_CARON
  SMALL_LETTER_C_WITH_CARON CAPITAL_LETTER_D_WITH_CARON SMALL_LETTER_D_WITH_CARON
  CAPITAL_LETTER_D_WITH_STROKE SMALL_LETTER_D_WITH_STROKE CAPITAL_LETTER_E_WITH_MACRON
  SMALL_LETTER_E_WITH_MACRON CAPITAL_LETTER_E_WITH_BREVE SMALL_LETTER_E_WITH_BREVE
  CAPITAL_LETTER_E_WITH_DOT_ABOVE SMALL_LETTER_E_WITH_DOT_ABOVE CAPITAL_LETTER_E_WITH_OGONEK
  SMALL_LETTER_E_WITH_OGONEK CAPITAL_LETTER_E_WITH_CARON SMALL_LETTER_E_WITH_CARON
  CAPITAL_LETTER_G_WITH_CIRCUMFLEX SMALL_LETTER_G_WITH_CIRCUMFLEX CAPITAL_LETTER_G_WITH_BREVE
  SMALL_LETTER_G_WITH_BREVE CAPITAL_LETTER_G_WITH_DOT_ABOVE SMALL_LETTER_G_WITH_DOT_ABOVE
  CAPITAL_LETTER_G_WITH_CEDILLA SMALL_LETTER_G_WITH_CEDILLA CAPITAL_LETTER_H_WITH_CIRCUMFLEX
  SMALL_LETTER_H_WITH_CIRCUMFLEX CAPITAL_LETTER_H_WITH_STROKE SMALL_LETTER_H_WITH_STROKE
  CAPITAL_LETTER_I_WITH_TILDE SMALL_LETTER_I_WITH_TILDE CAPITAL_LETTER_I_WITH_MACRON
  SMALL_LETTER_I_WITH_MACRON CAPITAL_LETTER_I_WITH_BREVE SMALL_LETTER_I_WITH_BREVE
  CAPITAL_LETTER_I_WITH_OGONEK SMALL_LETTER_I_WITH_OGONEK CAPITAL_LETTER_I_WITH_DOT_ABOVE
  SMALL_LETTER_DOTLESS_I CAPITAL_LIGATURE_IJ SMALL_LIGATURE_IJ CAPITAL_LETTER_J_WITH_CIRCUMFLEX
  SMALL_LETTER_J_WITH_CIRCUMFLEX CAPITAL_LETTER_K_WITH_CEDILLA SMALL_LETTER_K_WITH_CEDILLA
  SMALL_LETTER_KRA CAPITAL_LETTER_L_WITH_ACUTE SMALL_LETTER_L_WITH_ACUTE
  CAPITAL_LETTER_L_WITH_CEDILLA SMALL_LETTER_L_WITH_CEDILLA CAPITAL_LETTER_L_WITH_CARON
  SMALL_LETTER_L_WITH_CARON CAPITAL_LETTER_L_WITH_MIDDLE_DOT SMALL_LETTER_L_WITH_MIDDLE_DOT
  CAPITAL_LETTER_L_WITH_STROKE SMALL_LETTER_L_WITH_STROKE CAPITAL_LETTER_N_WITH_ACUTE
  SMALL_LETTER_N_WITH_ACUTE CAPITAL_LETTER_N_WITH_CEDILLA SMALL_LETTER_N_WITH_CEDILLA
  CAPITAL_LETTER_N_WITH_CARON SMALL_LETTER_N_WITH_CARON SMALL_LETTER_N_PRECEDED_BY_APOSTROPHE
  CAPITAL_LETTER_ENG SMALL_LETTER_ENG CAPITAL_LETTER_O_WITH_MACRON SMALL_LETTER_O_WITH_MACRON
  CAPITAL_LETTER_O_WITH_BREVE SMALL_LETTER_O_WITH_BREVE CAPITAL_LETTER_O_WITH_DOUBLE_ACUTE
  SMALL_LETTER_O_WITH_DOUBLE_ACUTE CAPITAL_LIGATURE_OE SMALL_LIGATURE_OE
  CAPITAL_LETTER_R_WITH_ACUTE SMALL_LETTER_R_WITH_ACUTE CAPITAL_LETTER_R_WITH_CEDILLA
  SMALL_LETTER_R_WITH_CEDILLA CAPITAL_LETTER_R_WITH_CARON SMALL_LETTER_R_WITH_CARON
  CAPITAL_LETTER_S_WITH_ACUTE SMALL_LETTER_S_WITH_ACUTE CAPITAL_LETTER_S_WITH_CIRCUMFLEX
  SMALL_LETTER_S_WITH_CIRCUMFLEX CAPITAL_LETTER_S_WITH_CEDILLA SMALL_LETTER_S_WITH_CEDILLA
  CAPITAL_LETTER_S_WITH_CARON SMALL_LETTER_S_WITH_CARON CAPITAL_LETTER_T_WITH_CEDILLA
  SMALL_LETTER_T_WITH_CEDILLA CAPITAL_LETTER_T_WITH_CARON SMALL_LETTER_T_WITH_CARON
  CAPITAL_LETTER_T_WITH_STROKE SMALL_LETTER_T_WITH_STROKE CAPITAL_LETTER_U_WITH_TILDE
  SMALL_LETTER_U_WITH_TILDE CAPITAL_LETTER_U_WITH_MACRON SMALL_LETTER_U_WITH_MACRON
  CAPITAL_LETTER_U_WITH_BREVE SMALL_LETTER_U_WITH_BREVE CAPITAL_LETTER_U_WITH_RING_ABOVE
  SMALL_LETTER_U_WITH_RING_ABOVE CAPITAL_LETTER_U_WITH_DOUBLE_ACUTE
  SMALL_LETTER_U_WITH_DOUBLE_ACUTE CAPITAL_LETTER_U_WITH_OGONEK SMALL_LETTER_U_WITH_OGONEK
  CAPITAL_LETTER_W_WITH_CIRCUMFLEX SMALL_LETTER_W_WITH_CIRCUMFLEX CAPITAL_LETTER_Y_WITH_CIRCUMFLEX
  SMALL_LETTER_Y_WITH_CIRCUMFLEX CAPITAL_LETTER_Y_WITH_DIAERESIS CAPITAL_LETTER_Z_WITH_ACUTE
  SMALL_LETTER_Z_WITH_ACUTE CAPITAL_LETTER_Z_WITH_DOT_ABOVE SMALL_LETTER_Z_WITH_DOT_ABOVE
  CAPITAL_LETTER_Z_WITH_CARON LATIN_SMALL_LETTER_: Z_WITH_CARON LONG_S B_WITH_STROKE
  LATIN_CAPITAL_LETTER_B_WITH_: HOOK TOPBAR LATIN_: SMALL_LETTER_B_WITH_TOPBAR
  CAPITAL_LETTER_TONE_SIX SMALL_LETTER_TONE_SIX CAPITAL_LETTER_OPEN_O CAPITAL_LETTER_C_WITH_HOOK
  SMALL_LETTER_C_WITH_HOOK LATIN_CAPITAL_LETTER_: AFRICAN_D D_WITH_HOOK D_WITH_TOPBAR
  LATIN_SMALL_LETTER_: D_WITH_TOPBAR TURNED_DELTA LATIN_CAPITAL_LETTER_: REVERSED_E SCHWA OPEN_E
  F_WITH_HOOK LATIN_: SMALL_LETTER_F_WITH_HOOK CAPITAL_LETTER_G_WITH_HOOK CAPITAL_LETTER_GAMMA
  SMALL_LETTER_HV LATIN_CAPITAL_LETTER_: IOTA I_WITH_STROKE K_WITH_HOOK LATIN_SMALL_LETTER_:
  K_WITH_HOOK L_WITH_BAR LAMBDA_WITH_STROKE LATIN_CAPITAL_LETTER_: TURNED_M N_WITH_LEFT_HOOK
  LATIN_SMALL_LETTER_N_WITH_LONG_RIGHT_: LEG LATIN_CAPITAL_LETTER_O_WITH_: MIDDLE_TILDE HORN
  LATIN_: SMALL_LETTER_O_WITH_HORN CAPITAL_LETTER_OI SMALL_LETTER_OI CAPITAL_LETTER_P_WITH_HOOK
  SMALL_LETTER_P_WITH_HOOK LETTER_YR CAPITAL_LETTER_TONE_TWO SMALL_LETTER_TONE_TWO
  CAPITAL_LETTER_ESH LETTER_REVERSED_ESH_LOOP SMALL_LETTER_T_WITH_PALATAL_HOOK
  CAPITAL_LETTER_T_WITH_HOOK SMALL_LETTER_T_WITH_HOOK CAPITAL_LETTER_T_WITH_RETROFLEX_HOOK
  CAPITAL_LETTER_U_WITH_HORN SMALL_LETTER_U_WITH_HORN LATIN_CAPITAL_LETTER_: UPSILON V_WITH_HOOK
  Y_WITH_HOOK LATIN_: SMALL_LETTER_Y_WITH_HOOK CAPITAL_LETTER_Z_WITH_STROKE
  SMALL_LETTER_Z_WITH_STROKE LATIN_CAPITAL_LETTER_: EZH EZH_REVERSED LATIN_SMALL_LETTER_EZH_:
  REVERSED WITH_TAIL LATIN_: LETTER_TWO_WITH_STROKE CAPITAL_LETTER_TONE_FIVE SMALL_LETTER_TONE_FIVE
  LATIN_LETTER_: INVERTED_GLOTTAL_STOP_WITH_STROKE WYNN DENTAL_CLICK LATERAL_CLICK ALVEOLAR_CLICK
  RETROFLEX_CLICK LATIN_CAPITAL_LETTER_: DZ_WITH_CARON D_WITH_SMALL_LETTER_Z_WITH_CARON LATIN_:
  SMALL_LETTER_DZ_WITH_CARON CAPITAL_LETTER_LJ CAPITAL_LETTER_L_WITH_SMALL_LETTER_J SMALL_LETTER_LJ
  CAPITAL_LETTER_NJ CAPITAL_LETTER_N_WITH_SMALL_LETTER_J SMALL_LETTER_NJ
  CAPITAL_LETTER_A_WITH_CARON SMALL_LETTER_A_WITH_CARON CAPITAL_LETTER_I_WITH_CARON
  SMALL_LETTER_I_WITH_CARON CAPITAL_LETTER_O_WITH_CARON SMALL_LETTER_O_WITH_CARON
  CAPITAL_LETTER_U_WITH_CARON SMALL_LETTER_U_WITH_CARON CAPITAL_LETTER_U_WITH_DIAERESIS_AND_MACRON
  SMALL_LETTER_U_WITH_DIAERESIS_AND_MACRON CAPITAL_LETTER_U_WITH_DIAERESIS_AND_ACUTE
  SMALL_LETTER_U_WITH_DIAERESIS_AND_ACUTE CAPITAL_LETTER_U_WITH_DIAERESIS_AND_CARON
  SMALL_LETTER_U_WITH_DIAERESIS_AND_CARON CAPITAL_LETTER_U_WITH_DIAERESIS_AND_GRAVE
  SMALL_LETTER_U_WITH_DIAERESIS_AND_GRAVE SMALL_LETTER_TURNED_E
  CAPITAL_LETTER_A_WITH_DIAERESIS_AND_MACRON SMALL_LETTER_A_WITH_DIAERESIS_AND_MACRON
  CAPITAL_LETTER_A_WITH_DOT_ABOVE_AND_MACRON SMALL_LETTER_A_WITH_DOT_ABOVE_AND_MACRON
  CAPITAL_LETTER_AE_WITH_MACRON SMALL_LETTER_AE_WITH_MACRON CAPITAL_LETTER_G_WITH_STROKE
  SMALL_LETTER_G_WITH_STROKE CAPITAL_LETTER_G_WITH_CARON SMALL_LETTER_G_WITH_CARON
  CAPITAL_LETTER_K_WITH_CARON SMALL_LETTER_K_WITH_CARON CAPITAL_LETTER_O_WITH_OGONEK
  SMALL_LETTER_O_WITH_OGONEK CAPITAL_LETTER_O_WITH_OGONEK_AND_MACRON
  SMALL_LETTER_O_WITH_OGONEK_AND_MACRON CAPITAL_LETTER_EZH_WITH_CARON LATIN_SMALL_LETTER_:
  EZH_WITH_CARON J_WITH_CARON LATIN_CAPITAL_LETTER_: DZ D_WITH_SMALL_LETTER_Z LATIN_:
  SMALL_LETTER_DZ CAPITAL_LETTER_G_WITH_ACUTE SMALL_LETTER_G_WITH_ACUTE LATIN_CAPITAL_LETTER_:
  HWAIR WYNN N_WITH_GRAVE LATIN_: SMALL_LETTER_N_WITH_GRAVE
  CAPITAL_LETTER_A_WITH_RING_ABOVE_AND_ACUTE SMALL_LETTER_A_WITH_RING_ABOVE_AND_ACUTE
  CAPITAL_LETTER_AE_WITH_ACUTE SMALL_LETTER_AE_WITH_ACUTE CAPITAL_LETTER_O_WITH_STROKE_AND_ACUTE
  SMALL_LETTER_O_WITH_STROKE_AND_ACUTE CAPITAL_LETTER_A_WITH_DOUBLE_GRAVE
  SMALL_LETTER_A_WITH_DOUBLE_GRAVE CAPITAL_LETTER_A_WITH_INVERTED_BREVE
  SMALL_LETTER_A_WITH_INVERTED_BREVE CAPITAL_LETTER_E_WITH_DOUBLE_GRAVE
  SMALL_LETTER_E_WITH_DOUBLE_GRAVE CAPITAL_LETTER_E_WITH_INVERTED_BREVE
  SMALL_LETTER_E_WITH_INVERTED_BREVE CAPITAL_LETTER_I_WITH_DOUBLE_GRAVE
  SMALL_LETTER_I_WITH_DOUBLE_GRAVE CAPITAL_LETTER_I_WITH_INVERTED_BREVE
  SMALL_LETTER_I_WITH_INVERTED_BREVE CAPITAL_LETTER_O_WITH_DOUBLE_GRAVE
  SMALL_LETTER_O_WITH_DOUBLE_GRAVE CAPITAL_LETTER_O_WITH_INVERTED_BREVE
  SMALL_LETTER_O_WITH_INVERTED_BREVE CAPITAL_LETTER_R_WITH_DOUBLE_GRAVE
  SMALL_LETTER_R_WITH_DOUBLE_GRAVE CAPITAL_LETTER_R_WITH_INVERTED_BREVE
  SMALL_LETTER_R_WITH_INVERTED_BREVE CAPITAL_LETTER_U_WITH_DOUBLE_GRAVE
  SMALL_LETTER_U_WITH_DOUBLE_GRAVE CAPITAL_LETTER_U_WITH_INVERTED_BREVE
  SMALL_LETTER_U_WITH_INVERTED_BREVE CAPITAL_LETTER_S_WITH_COMMA_BELOW
  SMALL_LETTER_S_WITH_COMMA_BELOW CAPITAL_LETTER_T_WITH_COMMA_BELOW SMALL_LETTER_T_WITH_COMMA_BELOW
  CAPITAL_LETTER_YOGH SMALL_LETTER_YOGH CAPITAL_LETTER_H_WITH_CARON SMALL_LETTER_H_WITH_CARON
  CAPITAL_LETTER_N_WITH_LONG_RIGHT_LEG SMALL_LETTER_D_WITH_CURL CAPITAL_LETTER_OU SMALL_LETTER_OU
  CAPITAL_LETTER_Z_WITH_HOOK SMALL_LETTER_Z_WITH_HOOK CAPITAL_LETTER_A_WITH_DOT_ABOVE
  SMALL_LETTER_A_WITH_DOT_ABOVE CAPITAL_LETTER_E_WITH_CEDILLA SMALL_LETTER_E_WITH_CEDILLA
  CAPITAL_LETTER_O_WITH_DIAERESIS_AND_MACRON SMALL_LETTER_O_WITH_DIAERESIS_AND_MACRON
  CAPITAL_LETTER_O_WITH_TILDE_AND_MACRON SMALL_LETTER_O_WITH_TILDE_AND_MACRON
  CAPITAL_LETTER_O_WITH_DOT_ABOVE SMALL_LETTER_O_WITH_DOT_ABOVE
  CAPITAL_LETTER_O_WITH_DOT_ABOVE_AND_MACRON SMALL_LETTER_O_WITH_DOT_ABOVE_AND_MACRON
  CAPITAL_LETTER_Y_WITH_MACRON LATIN_SMALL_LETTER_: Y_WITH_MACRON L_WITH_CURL N_WITH_CURL
  T_WITH_CURL DOTLESS_J DB_DIGRAPH QP_DIGRAPH LATIN_CAPITAL_LETTER_: A_WITH_STROKE C_WITH_STROKE
  LATIN_SMALL_LETTER_C_WITH_: STROKE LATIN_CAPITAL_LETTER_: L_WITH_BAR T_WITH_DIAGONAL_STROKE
  LATIN_SMALL_LETTER_: S_WITH_SWASH_TAIL Z_WITH_SWASH_TAIL LATIN_: CAPITAL_LETTER_GLOTTAL_STOP
  SMALL_LETTER_GLOTTAL_STOP LATIN_CAPITAL_LETTER_: B_WITH_STROKE U_BAR TURNED_V E_WITH_STROKE
  LATIN_: SMALL_LETTER_E_WITH_STROKE CAPITAL_LETTER_J_WITH_STROKE SMALL_LETTER_J_WITH_STROKE
  CAPITAL_LETTER_SMALL_Q_WITH_HOOK_TAIL SMALL_LETTER_Q_WITH_HOOK_TAIL CAPITAL_LETTER_R_WITH_STROKE
  SMALL_LETTER_R_WITH_STROKE CAPITAL_LETTER_Y_WITH_STROKE LATIN_SMALL_LETTER_: Y_WITH_STROKE
  TURNED_A ALPHA TURNED_ALPHA B_WITH_HOOK OPEN_O C_WITH_CURL D_WITH_TAIL D_WITH_HOOK REVERSED_E
  SCHWA SCHWA_WITH_HOOK OPEN_E REVERSED_OPEN_E REVERSED_OPEN_E_WITH_HOOK CLOSED_REVERSED_OPEN_E
  DOTLESS_J_WITH_STROKE G_WITH_HOOK SCRIPT_G LATIN_LETTER_SMALL_CAPITAL_: G LATIN_SMALL_LETTER_:
  GAMMA RAMS_HORN TURNED_H H_WITH_HOOK HENG_WITH_HOOK I_WITH_STROKE IOTA
  LATIN_LETTER_SMALL_CAPITAL_: I LATIN_SMALL_LETTER_: L_WITH_MIDDLE_TILDE L_WITH_BELT
  L_WITH_RETROFLEX_HOOK LEZH TURNED_M TURNED_M_WITH_LONG_LEG M_WITH_HOOK N_WITH_LEFT_HOOK
  N_WITH_RETROFLEX_HOOK LATIN_: LETTER_SMALL_CAPITAL_N SMALL_LETTER_BARRED_O
  LETTER_SMALL_CAPITAL_OE LATIN_SMALL_LETTER_: CLOSED_OMEGA PHI TURNED_R TURNED_R_WITH_LONG_LEG
  TURNED_R_WITH_HOOK R_WITH_LONG_LEG R_WITH_TAIL R_WITH_FISHHOOK REVERSED_R_WITH_FISHHOOK
  LATIN_LETTER_SMALL_CAPITAL_: R INVERTED_R LATIN_SMALL_LETTER_: S_WITH_HOOK ESH
  DOTLESS_J_WITH_STROKE_AND_HOOK SQUAT_REVERSED_ESH ESH_WITH_CURL TURNED_T T_WITH_RETROFLEX_HOOK
  U_BAR UPSILON V_WITH_HOOK TURNED_V TURNED_W TURNED_Y LATIN_LETTER_SMALL_CAPITAL_: Y
  LATIN_SMALL_LETTER_: Z_WITH_RETROFLEX_HOOK Z_WITH_CURL EZH EZH_WITH_CURL LATIN_LETTER_:
  GLOTTAL_STOP PHARYNGEAL_VOICED_FRICATIVE INVERTED_GLOTTAL_STOP STRETCHED_C BILABIAL_CLICK
  SMALL_CAPITAL_B LATIN_SMALL_LETTER_CLOSED_OPEN_: E LATIN_LETTER_SMALL_CAPITAL_: G_WITH_HOOK H
  LATIN_SMALL_LETTER_: J_WITH_CROSSED-TAIL TURNED_K LATIN_: LETTER_SMALL_CAPITAL_L
  SMALL_LETTER_Q_WITH_HOOK LETTER_GLOTTAL_STOP_WITH_STROKE LETTER_REVERSED_GLOTTAL_STOP_WITH_STROKE
  LATIN_SMALL_LETTER_: DZ_DIGRAPH DEZH_DIGRAPH DZ_DIGRAPH_WITH_CURL TS_DIGRAPH TESH_DIGRAPH
  TC_DIGRAPH_WITH_CURL FENG_DIGRAPH LS_DIGRAPH LZ_DIGRAPH LATIN_LETTER_: BILABIAL_PERCUSSIVE
  BIDENTAL_PERCUSSIVE LATIN_SMALL_LETTER_TURNED_H_WITH_: FISHHOOK FISHHOOK_AND_TAIL
  MODIFIER_LETTER_SMALL_: H H_WITH_HOOK J R TURNED_R TURNED_R_WITH_HOOK CAPITAL_INVERTED_R W Y
  MODIFIER_LETTER_: PRIME DOUBLE_PRIME TURNED_COMMA APOSTROPHE REVERSED_COMMA RIGHT_HALF_RING
  LEFT_HALF_RING GLOTTAL_STOP REVERSED_GLOTTAL_STOP LEFT_ARROWHEAD RIGHT_ARROWHEAD UP_ARROWHEAD
  DOWN_ARROWHEAD CIRCUMFLEX_ACCENT : CARON MODIFIER_LETTER_: VERTICAL_LINE MACRON ACUTE_ACCENT
  GRAVE_ACCENT LOW_VERTICAL_LINE LOW_MACRON LOW_GRAVE_ACCENT LOW_ACUTE_ACCENT TRIANGULAR_COLON
  HALF_TRIANGULAR_COLON CENTRED_RIGHT_HALF_RING CENTRED_LEFT_HALF_RING UP_TACK DOWN_TACK PLUS_SIGN
  MINUS_SIGN : BREVE DOT_ABOVE RING_ABOVE OGONEK SMALL_TILDE DOUBLE_ACUTE_ACCENT MODIFIER_LETTER_:
  RHOTIC_HOOK CROSS_ACCENT SMALL_GAMMA SMALL_L SMALL_S SMALL_X SMALL_REVERSED_GLOTTAL_STOP
  EXTRA-HIGH_TONE_BAR HIGH_TONE_BAR MID_TONE_BAR LOW_TONE_BAR EXTRA-LOW_TONE_BAR
  YIN_DEPARTING_TONE_MARK YANG_DEPARTING_TONE_MARK VOICING UNASPIRATED DOUBLE_APOSTROPHE
  LOW_DOWN_ARROWHEAD LOW_UP_ARROWHEAD LOW_LEFT_ARROWHEAD LOW_RIGHT_ARROWHEAD LOW_RING
  MIDDLE_GRAVE_ACCENT MIDDLE_DOUBLE_GRAVE_ACCENT MIDDLE_DOUBLE_ACUTE_ACCENT LOW_TILDE RAISED_COLON
  BEGIN_HIGH_TONE END_HIGH_TONE BEGIN_LOW_TONE END_LOW_TONE SHELF OPEN_SHELF LOW_LEFT_ARROW
  COMBINING_: GRAVE_ACCENT ACUTE_ACCENT CIRCUMFLEX_ACCENT TILDE MACRON OVERLINE BREVE DOT_ABOVE
  DIAERESIS HOOK_ABOVE RING_ABOVE DOUBLE_ACUTE_ACCENT CARON VERTICAL_LINE_ABOVE
  DOUBLE_VERTICAL_LINE_ABOVE DOUBLE_GRAVE_ACCENT CANDRABINDU INVERTED_BREVE TURNED_COMMA_ABOVE
  COMMA_ABOVE REVERSED_COMMA_ABOVE COMMA_ABOVE_RIGHT GRAVE_ACCENT_BELOW ACUTE_ACCENT_BELOW
  LEFT_TACK_BELOW RIGHT_TACK_BELOW LEFT_ANGLE_ABOVE HORN LEFT_HALF_RING_BELOW UP_TACK_BELOW
  DOWN_TACK_BELOW PLUS_SIGN_BELOW MINUS_SIGN_BELOW PALATALIZED_HOOK_BELOW RETROFLEX_HOOK_BELOW
  DOT_BELOW DIAERESIS_BELOW RING_BELOW COMMA_BELOW CEDILLA OGONEK VERTICAL_LINE_BELOW BRIDGE_BELOW
  INVERTED_DOUBLE_ARCH_BELOW CARON_BELOW CIRCUMFLEX_ACCENT_BELOW BREVE_BELOW INVERTED_BREVE_BELOW
  TILDE_BELOW MACRON_BELOW LOW_LINE DOUBLE_LOW_LINE TILDE_OVERLAY SHORT_STROKE_OVERLAY
  LONG_STROKE_OVERLAY SHORT_SOLIDUS_OVERLAY LONG_SOLIDUS_OVERLAY RIGHT_HALF_RING_BELOW
  INVERTED_BRIDGE_BELOW SQUARE_BELOW SEAGULL_BELOW X_ABOVE VERTICAL_TILDE DOUBLE_OVERLINE
  GRAVE_TONE_MARK ACUTE_TONE_MARK GREEK_PERISPOMENI GREEK_KORONIS GREEK_DIALYTIKA_TONOS
  GREEK_YPOGEGRAMMENI BRIDGE_ABOVE EQUALS_SIGN_BELOW DOUBLE_VERTICAL_LINE_BELOW LEFT_ANGLE_BELOW
  NOT_TILDE_ABOVE HOMOTHETIC_ABOVE ALMOST_EQUAL_TO_ABOVE LEFT_RIGHT_ARROW_BELOW UPWARDS_ARROW_BELOW
  GRAPHEME_JOINER RIGHT_ARROWHEAD_ABOVE LEFT_HALF_RING_ABOVE FERMATA X_BELOW LEFT_ARROWHEAD_BELOW
  RIGHT_ARROWHEAD_BELOW RIGHT_ARROWHEAD_AND_UP_ARROWHEAD_BELOW RIGHT_HALF_RING_ABOVE
  DOT_ABOVE_RIGHT ASTERISK_BELOW DOUBLE_RING_BELOW ZIGZAG_ABOVE COMBINING_DOUBLE_: BREVE_BELOW
  BREVE MACRON MACRON_BELOW TILDE INVERTED_BREVE RIGHTWARDS_ARROW_BELOW
  COMBINING_LATIN_SMALL_LETTER_: A E I O U C D H M R T V X GREEK_: CAPITAL_LETTER_HETA
  SMALL_LETTER_HETA CAPITAL_LETTER_ARCHAIC_SAMPI SMALL_LETTER_ARCHAIC_SAMPI NUMERAL_SIGN
  LOWER_NUMERAL_SIGN CAPITAL_LETTER_PAMPHYLIAN_DIGAMMA SMALL_LETTER_PAMPHYLIAN_DIGAMMA @37A
  YPOGEGRAMMENI SMALL_REVERSED_LUNATE_SIGMA_SYMBOL SMALL_DOTTED_LUNATE_SIGMA_SYMBOL
  SMALL_REVERSED_DOTTED_LUNATE_SIGMA_SYMBOL QUESTION_MARK CAPITAL_LETTER_YOT @384 TONOS
  DIALYTIKA_TONOS CAPITAL_LETTER_ALPHA_WITH_TONOS ANO_TELEIA GREEK_CAPITAL_LETTER_:
  EPSILON_WITH_TONOS ETA_WITH_TONOS IOTA_WITH_TONOS @38C GREEK_CAPITAL_LETTER_OMICRON_WITH_: TONOS
  @38E GREEK_CAPITAL_LETTER_: UPSILON_WITH_TONOS OMEGA_WITH_TONOS
  GREEK_SMALL_LETTER_IOTA_WITH_DIALYTIKA_AND_: TONOS GREEK_CAPITAL_LETTER_: ALPHA BETA GAMMA DELTA
  EPSILON ZETA ETA THETA IOTA KAPPA LAMDA MU NU XI OMICRON PI RHO @3A3 SIGMA TAU UPSILON PHI CHI
  PSI OMEGA IOTA_WITH_DIALYTIKA UPSILON_WITH_DIALYTIKA GREEK_SMALL_LETTER_: ALPHA_WITH_TONOS
  EPSILON_WITH_TONOS ETA_WITH_TONOS IOTA_WITH_TONOS UPSILON_WITH_DIALYTIKA_AND_TONOS ALPHA BETA
  GAMMA DELTA EPSILON ZETA ETA THETA IOTA KAPPA LAMDA MU NU XI OMICRON PI RHO FINAL_SIGMA SIGMA TAU
  UPSILON PHI CHI PSI OMEGA IOTA_WITH_DIALYTIKA UPSILON_WITH_DIALYTIKA OMICRON_WITH_TONOS
  UPSILON_WITH_TONOS OMEGA_WITH_TONOS GREEK_: CAPITAL_KAI_SYMBOL BETA_SYMBOL THETA_SYMBOL
  GREEK_UPSILON_WITH_: HOOK_SYMBOL ACUTE_AND_HOOK_SYMBOL DIAERESIS_AND_HOOK_SYMBOL GREEK_:
  PHI_SYMBOL PI_SYMBOL KAI_SYMBOL LETTER_ARCHAIC_KOPPA SMALL_LETTER_ARCHAIC_KOPPA LETTER_STIGMA
  SMALL_LETTER_STIGMA LETTER_DIGAMMA SMALL_LETTER_DIGAMMA LETTER_KOPPA SMALL_LETTER_KOPPA
  LETTER_SAMPI SMALL_LETTER_SAMPI COPTIC_: CAPITAL_LETTER_SHEI SMALL_LETTER_SHEI CAPITAL_LETTER_FEI
  SMALL_LETTER_FEI CAPITAL_LETTER_KHEI SMALL_LETTER_KHEI CAPITAL_LETTER_HORI SMALL_LETTER_HORI
  CAPITAL_LETTER_GANGIA SMALL_LETTER_GANGIA CAPITAL_LETTER_SHIMA SMALL_LETTER_SHIMA
  CAPITAL_LETTER_DEI SMALL_LETTER_DEI GREEK_: KAPPA_SYMBOL RHO_SYMBOL LUNATE_SIGMA_SYMBOL
  LETTER_YOT CAPITAL_THETA_SYMBOL LUNATE_EPSILON_SYMBOL REVERSED_LUNATE_EPSILON_SYMBOL
  CAPITAL_LETTER_SHO SMALL_LETTER_SHO CAPITAL_LUNATE_SIGMA_SYMBOL CAPITAL_LETTER_SAN
  SMALL_LETTER_SAN RHO_WITH_STROKE_SYMBOL GREEK_CAPITAL_: REVERSED_LUNATE_SIGMA_SYMBOL
  DOTTED_LUNATE_SIGMA_SYMBOL REVERSED_DOTTED_LUNATE_SIGMA_SYMBOL CYRILLIC_CAPITAL_LETTER_:
  IE_WITH_GRAVE IO DJE GJE UKRAINIAN_IE DZE BYELORUSSIAN-UKRAINIAN_I YI JE LJE NJE TSHE KJE
  I_WITH_GRAVE SHORT_U DZHE A BE VE GHE DE IE ZHE ZE I SHORT_I KA EL EM EN O PE ER ES TE U EF HA
  TSE CHE SHA SHCHA HARD_SIGN YERU SOFT_SIGN E YU YA CYRILLIC_SMALL_LETTER_: A BE VE GHE DE IE ZHE
  ZE I SHORT_I KA EL EM EN O PE ER ES TE U EF HA TSE CHE SHA SHCHA HARD_SIGN YERU SOFT_SIGN E YU YA
  IE_WITH_GRAVE IO DJE GJE UKRAINIAN_IE DZE BYELORUSSIAN-UKRAINIAN_I YI JE LJE NJE TSHE KJE
  I_WITH_GRAVE SHORT_U DZHE CYRILLIC_: CAPITAL_LETTER_OMEGA SMALL_LETTER_OMEGA CAPITAL_LETTER_YAT
  SMALL_LETTER_YAT CAPITAL_LETTER_IOTIFIED_E SMALL_LETTER_IOTIFIED_E CAPITAL_LETTER_LITTLE_YUS
  SMALL_LETTER_LITTLE_YUS CAPITAL_LETTER_IOTIFIED_LITTLE_YUS SMALL_LETTER_IOTIFIED_LITTLE_YUS
  CAPITAL_LETTER_BIG_YUS SMALL_LETTER_BIG_YUS CAPITAL_LETTER_IOTIFIED_BIG_YUS
  SMALL_LETTER_IOTIFIED_BIG_YUS CAPITAL_LETTER_KSI SMALL_LETTER_KSI CAPITAL_LETTER_PSI
  SMALL_LETTER_PSI CAPITAL_LETTER_FITA SMALL_LETTER_FITA CAPITAL_LETTER_IZHITSA
  SMALL_LETTER_IZHITSA CAPITAL_LETTER_IZHITSA_WITH_DOUBLE_GRAVE_ACCENT
  SMALL_LETTER_IZHITSA_WITH_DOUBLE_GRAVE_ACCENT CAPITAL_LETTER_UK SMALL_LETTER_UK
  CAPITAL_LETTER_ROUND_OMEGA SMALL_LETTER_ROUND_OMEGA CAPITAL_LETTER_OMEGA_WITH_TITLO
  SMALL_LETTER_OMEGA_WITH_TITLO CAPITAL_LETTER_OT SMALL_LETTER_OT CAPITAL_LETTER_KOPPA
  SMALL_LETTER_KOPPA THOUSANDS_SIGN COMBINING_CYRILLIC_: TITLO PALATALIZATION DASIA_PNEUMATA
  PSILI_PNEUMATA POKRYTIE HUNDRED_THOUSANDS_SIGN MILLIONS_SIGN CYRILLIC_:
  CAPITAL_LETTER_SHORT_I_WITH_TAIL SMALL_LETTER_SHORT_I_WITH_TAIL CAPITAL_LETTER_SEMISOFT_SIGN
  SMALL_LETTER_SEMISOFT_SIGN CAPITAL_LETTER_ER_WITH_TICK SMALL_LETTER_ER_WITH_TICK
  CAPITAL_LETTER_GHE_WITH_UPTURN SMALL_LETTER_GHE_WITH_UPTURN CAPITAL_LETTER_GHE_WITH_STROKE
  SMALL_LETTER_GHE_WITH_STROKE CAPITAL_LETTER_GHE_WITH_MIDDLE_HOOK
  SMALL_LETTER_GHE_WITH_MIDDLE_HOOK CAPITAL_LETTER_ZHE_WITH_DESCENDER
  SMALL_LETTER_ZHE_WITH_DESCENDER CAPITAL_LETTER_ZE_WITH_DESCENDER SMALL_LETTER_ZE_WITH_DESCENDER
  CAPITAL_LETTER_KA_WITH_DESCENDER SMALL_LETTER_KA_WITH_DESCENDER
  CAPITAL_LETTER_KA_WITH_VERTICAL_STROKE SMALL_LETTER_KA_WITH_VERTICAL_STROKE
  CAPITAL_LETTER_KA_WITH_STROKE SMALL_LETTER_KA_WITH_STROKE CAPITAL_LETTER_BASHKIR_KA
  SMALL_LETTER_BASHKIR_KA CAPITAL_LETTER_EN_WITH_DESCENDER SMALL_LETTER_EN_WITH_DESCENDER
  CAPITAL_LIGATURE_EN_GHE SMALL_LIGATURE_EN_GHE CAPITAL_LETTER_PE_WITH_MIDDLE_HOOK
  SMALL_LETTER_PE_WITH_MIDDLE_HOOK CAPITAL_LETTER_ABKHASIAN_HA SMALL_LETTER_ABKHASIAN_HA
  CAPITAL_LETTER_ES_WITH_DESCENDER SMALL_LETTER_ES_WITH_DESCENDER CAPITAL_LETTER_TE_WITH_DESCENDER
  SMALL_LETTER_TE_WITH_DESCENDER CAPITAL_LETTER_STRAIGHT_U SMALL_LETTER_STRAIGHT_U
  CAPITAL_LETTER_STRAIGHT_U_WITH_STROKE SMALL_LETTER_STRAIGHT_U_WITH_STROKE
  CAPITAL_LETTER_HA_WITH_DESCENDER SMALL_LETTER_HA_WITH_DESCENDER CAPITAL_LIGATURE_TE_TSE
  SMALL_LIGATURE_TE_TSE CAPITAL_LETTER_CHE_WITH_DESCENDER SMALL_LETTER_CHE_WITH_DESCENDER
  CAPITAL_LETTER_CHE_WITH_VERTICAL_STROKE SMALL_LETTER_CHE_WITH_VERTICAL_STROKE CAPITAL_LETTER_SHHA
  SMALL_LETTER_SHHA CAPITAL_LETTER_ABKHASIAN_CHE SMALL_LETTER_ABKHASIAN_CHE
  CAPITAL_LETTER_ABKHASIAN_CHE_WITH_DESCENDER SMALL_LETTER_ABKHASIAN_CHE_WITH_DESCENDER
  LETTER_PALOCHKA CAPITAL_LETTER_ZHE_WITH_BREVE SMALL_LETTER_ZHE_WITH_BREVE
  CAPITAL_LETTER_KA_WITH_HOOK SMALL_LETTER_KA_WITH_HOOK CAPITAL_LETTER_EL_WITH_TAIL
  SMALL_LETTER_EL_WITH_TAIL CAPITAL_LETTER_EN_WITH_HOOK SMALL_LETTER_EN_WITH_HOOK
  CAPITAL_LETTER_EN_WITH_TAIL SMALL_LETTER_EN_WITH_TAIL CAPITAL_LETTER_KHAKASSIAN_CHE
  SMALL_LETTER_KHAKASSIAN_CHE CAPITAL_LETTER_EM_WITH_TAIL SMALL_LETTER_EM_WITH_TAIL
  SMALL_LETTER_PALOCHKA CAPITAL_LETTER_A_WITH_BREVE SMALL_LETTER_A_WITH_BREVE
  CAPITAL_LETTER_A_WITH_DIAERESIS SMALL_LETTER_A_WITH_DIAERESIS CAPITAL_LIGATURE_A_IE
  SMALL_LIGATURE_A_IE CAPITAL_LETTER_IE_WITH_BREVE SMALL_LETTER_IE_WITH_BREVE CAPITAL_LETTER_SCHWA
  SMALL_LETTER_SCHWA CAPITAL_LETTER_SCHWA_WITH_DIAERESIS SMALL_LETTER_SCHWA_WITH_DIAERESIS
  CAPITAL_LETTER_ZHE_WITH_DIAERESIS SMALL_LETTER_ZHE_WITH_DIAERESIS
  CAPITAL_LETTER_ZE_WITH_DIAERESIS SMALL_LETTER_ZE_WITH_DIAERESIS CAPITAL_LETTER_ABKHASIAN_DZE
  SMALL_LETTER_ABKHASIAN_DZE CAPITAL_LETTER_I_WITH_MACRON SMALL_LETTER_I_WITH_MACRON
  CAPITAL_LETTER_I_WITH_DIAERESIS SMALL_LETTER_I_WITH_DIAERESIS CAPITAL_LETTER_O_WITH_DIAERESIS
  SMALL_LETTER_O_WITH_DIAERESIS CAPITAL_LETTER_BARRED_O SMALL_LETTER_BARRED_O
  CAPITAL_LETTER_BARRED_O_WITH_DIAERESIS SMALL_LETTER_BARRED_O_WITH_DIAERESIS
  CAPITAL_LETTER_E_WITH_DIAERESIS SMALL_LETTER_E_WITH_DIAERESIS CAPITAL_LETTER_U_WITH_MACRON
  SMALL_LETTER_U_WITH_MACRON CAPITAL_LETTER_U_WITH_DIAERESIS SMALL_LETTER_U_WITH_DIAERESIS
  CAPITAL_LETTER_U_WITH_DOUBLE_ACUTE SMALL_LETTER_U_WITH_DOUBLE_ACUTE
  CAPITAL_LETTER_CHE_WITH_DIAERESIS SMALL_LETTER_CHE_WITH_DIAERESIS
  CAPITAL_LETTER_GHE_WITH_DESCENDER SMALL_LETTER_GHE_WITH_DESCENDER
  CAPITAL_LETTER_YERU_WITH_DIAERESIS SMALL_LETTER_YERU_WITH_DIAERESIS
  CAPITAL_LETTER_GHE_WITH_STROKE_AND_HOOK SMALL_LETTER_GHE_WITH_STROKE_AND_HOOK
  CAPITAL_LETTER_HA_WITH_HOOK SMALL_LETTER_HA_WITH_HOOK CAPITAL_LETTER_HA_WITH_STROKE
  SMALL_LETTER_HA_WITH_STROKE CAPITAL_LETTER_KOMI_DE SMALL_LETTER_KOMI_DE CAPITAL_LETTER_KOMI_DJE
  SMALL_LETTER_KOMI_DJE CAPITAL_LETTER_KOMI_ZJE SMALL_LETTER_KOMI_ZJE CAPITAL_LETTER_KOMI_DZJE
  SMALL_LETTER_KOMI_DZJE CAPITAL_LETTER_KOMI_LJE SMALL_LETTER_KOMI_LJE CAPITAL_LETTER_KOMI_NJE
  SMALL_LETTER_KOMI_NJE CAPITAL_LETTER_KOMI_SJE SMALL_LETTER_KOMI_SJE CAPITAL_LETTER_KOMI_TJE
  SMALL_LETTER_KOMI_TJE CAPITAL_LETTER_REVERSED_ZE SMALL_LETTER_REVERSED_ZE
  CAPITAL_LETTER_EL_WITH_HOOK SMALL_LETTER_EL_WITH_HOOK CAPITAL_LETTER_LHA SMALL_LETTER_LHA
  CAPITAL_LETTER_RHA SMALL_LETTER_RHA CAPITAL_LETTER_YAE SMALL_LETTER_YAE CAPITAL_LETTER_QA
  SMALL_LETTER_QA CAPITAL_LETTER_WE SMALL_LETTER_WE CAPITAL_LETTER_ALEUT_KA SMALL_LETTER_ALEUT_KA
  CAPITAL_LETTER_EL_WITH_MIDDLE_HOOK SMALL_LETTER_EL_WITH_MIDDLE_HOOK
  CAPITAL_LETTER_EN_WITH_MIDDLE_HOOK SMALL_LETTER_EN_WITH_MIDDLE_HOOK
  CAPITAL_LETTER_PE_WITH_DESCENDER SMALL_LETTER_PE_WITH_DESCENDER
  CAPITAL_LETTER_SHHA_WITH_DESCENDER SMALL_LETTER_SHHA_WITH_DESCENDER
  CAPITAL_LETTER_EN_WITH_LEFT_HOOK SMALL_LETTER_EN_WITH_LEFT_HOOK CAPITAL_LETTER_DZZHE
  SMALL_LETTER_DZZHE CAPITAL_LETTER_DCHE SMALL_LETTER_DCHE CAPITAL_LETTER_EL_WITH_DESCENDER
  SMALL_LETTER_EL_WITH_DESCENDER @531 ARMENIAN_CAPITAL_LETTER_: AYB BEN GIM DA ECH ZA EH ET TO ZHE
  INI LIWN XEH CA KEN HO JA GHAD CHEH MEN YI NOW SHA VO CHA PEH JHEH RA SEH VEW TIWN REH CO YIWN
  PIWR KEH OH FEH @559 ARMENIAN_: MODIFIER_LETTER_LEFT_HALF_RING APOSTROPHE EMPHASIS_MARK
  EXCLAMATION_MARK COMMA QUESTION_MARK ABBREVIATION_MARK ARMENIAN_SMALL_LETTER_: TURNED_AYB AYB BEN
  GIM DA ECH ZA EH ET TO ZHE INI LIWN XEH CA KEN HO JA GHAD CHEH MEN YI NOW SHA VO CHA PEH JHEH RA
  SEH VEW TIWN REH CO YIWN PIWR KEH OH FEH ARMENIAN_: SMALL_LIGATURE_ECH_YIWN
  SMALL_LETTER_YI_WITH_STROKE FULL_STOP HYPHEN @58D : RIGHT-FACING_ARMENIAN_ETERNITY_SIGN
  LEFT-FACING_ARMENIAN_ETERNITY_SIGN ARMENIAN_DRAM_SIGN @591 HEBREW_ACCENT_: ETNAHTA SEGOL
  SHALSHELET ZAQEF_QATAN ZAQEF_GADOL TIPEHA REVIA ZARQA PASHTA YETIV TEVIR GERESH GERESH_MUQDAM
  GERSHAYIM QARNEY_PARA TELISHA_GEDOLA PAZER ATNAH_HAFUKH MUNAH MAHAPAKH MERKHA MERKHA_KEFULA DARGA
  QADMA TELISHA_QETANA YERAH_BEN_YOMO OLE ILUY DEHI ZINOR HEBREW_MARK_MASORA_: CIRCLE
  HEBREW_POINT_: SHEVA HATAF_SEGOL HATAF_PATAH HATAF_QAMATS HIRIQ TSERE SEGOL PATAH QAMATS HOLAM
  HOLAM_HASER_FOR_VAV QUBUTS DAGESH_OR_MAPIQ METEG HEBREW_: PUNCTUATION_MAQAF POINT_RAFE
  PUNCTUATION_PASEQ POINT_SHIN_DOT POINT_SIN_DOT PUNCTUATION_SOF_PASUQ MARK_UPPER_DOT
  MARK_LOWER_DOT PUNCTUATION_NUN_HAFUKHA POINT_QAMATS_QATAN @5D0 HEBREW_LETTER_: ALEF BET GIMEL
  DALET HE VAV ZAYIN HET TET YOD FINAL_KAF KAF LAMED FINAL_MEM MEM FINAL_NUN NUN SAMEKH AYIN
  FINAL_PE PE FINAL_TSADI TSADI QOF RESH SHIN TAV @5EF HEBREW_YOD_: TRIANGLE
  HEBREW_LIGATURE_YIDDISH_: DOUBLE_VAV VAV_YOD DOUBLE_YOD HEBREW_PUNCTUATION_: GERESH GERSHAYIM
  @600 ARABIC_: NUMBER_SIGN SIGN_SANAH FOOTNOTE_MARKER SIGN_SAFHA SIGN_SAMVAT NUMBER_MARK_ABOVE
  ARABIC-INDIC_: CUBE_ROOT FOURTH_ROOT ARABIC_: RAY ARABIC-INDIC_PER_: MILLE_SIGN TEN_THOUSAND_SIGN
  AFGHANI_: SIGN ARABIC_: COMMA DATE_SEPARATOR POETIC_VERSE_SIGN ARABIC_SIGN_: MISRA
  SALLALLAHOU_ALAYHE_WASSALLAM ALAYHE_ASSALLAM RAHMATULLAH_ALAYHE RADI_ALLAHOU_ANHU TAKHALLUS
  ARABIC_SMALL_: HIGH_TAH HIGH_LIGATURE_ALEF_WITH_LAM_WITH_YEH HIGH_ZAIN FATHA DAMMA KASRA ARABIC_:
  SEMICOLON LETTER_MARK END_OF_TEXT_MARK TRIPLE_DOT_PUNCTUATION_MARK QUESTION_MARK ARABIC_LETTER_:
  KASHMIRI_YEH HAMZA ALEF_WITH_MADDA_ABOVE ALEF_WITH_HAMZA_ABOVE WAW_WITH_HAMZA_ABOVE
  ALEF_WITH_HAMZA_BELOW YEH_WITH_HAMZA_ABOVE ALEF BEH TEH_MARBUTA TEH THEH JEEM HAH KHAH DAL THAL
  REH ZAIN SEEN SHEEN SAD DAD TAH ZAH AIN GHAIN KEHEH_WITH_TWO_DOTS_ABOVE
  KEHEH_WITH_THREE_DOTS_BELOW ARABIC_LETTER_FARSI_YEH_WITH_: INVERTED_V TWO_DOTS_ABOVE
  THREE_DOTS_ABOVE ARABIC_: TATWEEL ARABIC_LETTER_: FEH QAF KAF LAM MEEM NOON HEH WAW ALEF_MAKSURA
  YEH ARABIC_: FATHATAN DAMMATAN KASRATAN FATHA DAMMA KASRA SHADDA SUKUN MADDAH_ABOVE HAMZA_ABOVE
  HAMZA_BELOW SUBSCRIPT_ALEF INVERTED_DAMMA MARK_NOON_GHUNNA ZWARAKAY ARABIC_VOWEL_SIGN_:
  SMALL_V_ABOVE INVERTED_SMALL_V_ABOVE DOT_BELOW ARABIC_: REVERSED_DAMMA FATHA_WITH_TWO_DOTS
  WAVY_HAMZA_BELOW ARABIC-INDIC_DIGIT_: ZERO ONE TWO THREE FOUR FIVE SIX SEVEN EIGHT NINE ARABIC_:
  PERCENT_SIGN DECIMAL_SEPARATOR THOUSANDS_SEPARATOR FIVE_POINTED_STAR ARABIC_LETTER_: DOTLESS_BEH
  DOTLESS_QAF SUPERSCRIPT_ALEF ALEF_WASLA ALEF_WITH_WAVY_HAMZA_ABOVE ALEF_WITH_WAVY_HAMZA_BELOW
  HIGH_HAMZA HIGH_HAMZA_ALEF HIGH_HAMZA_WAW U_WITH_HAMZA_ABOVE HIGH_HAMZA_YEH TTEH TTEHEH BEEH
  TEH_WITH_RING TEH_WITH_THREE_DOTS_ABOVE_DOWNWARDS PEH TEHEH BEHEH HAH_WITH_HAMZA_ABOVE
  HAH_WITH_TWO_DOTS_VERTICAL_ABOVE NYEH DYEH HAH_WITH_THREE_DOTS_ABOVE TCHEH TCHEHEH DDAL
  DAL_WITH_RING DAL_WITH_DOT_BELOW DAL_WITH_DOT_BELOW_AND_SMALL_TAH DAHAL DDAHAL DUL
  DAL_WITH_THREE_DOTS_ABOVE_DOWNWARDS DAL_WITH_FOUR_DOTS_ABOVE RREH ARABIC_LETTER_REH_WITH_:
  SMALL_V RING DOT_BELOW SMALL_V_BELOW DOT_BELOW_AND_DOT_ABOVE TWO_DOTS_ABOVE ARABIC_LETTER_: JEH
  REH_WITH_FOUR_DOTS_ABOVE SEEN_WITH_DOT_BELOW_AND_DOT_ABOVE SEEN_WITH_THREE_DOTS_BELOW
  SEEN_WITH_THREE_DOTS_BELOW_AND_THREE_DOTS_ABOVE SAD_WITH_TWO_DOTS_BELOW SAD_WITH_THREE_DOTS_ABOVE
  TAH_WITH_THREE_DOTS_ABOVE AIN_WITH_THREE_DOTS_ABOVE DOTLESS_FEH FEH_WITH_DOT_MOVED_BELOW
  FEH_WITH_DOT_BELOW VEH FEH_WITH_THREE_DOTS_BELOW PEHEH QAF_WITH_DOT_ABOVE
  QAF_WITH_THREE_DOTS_ABOVE KEHEH SWASH_KAF KAF_WITH_RING KAF_WITH_DOT_ABOVE NG
  KAF_WITH_THREE_DOTS_BELOW GAF GAF_WITH_RING NGOEH GAF_WITH_TWO_DOTS_BELOW GUEH
  GAF_WITH_THREE_DOTS_ABOVE LAM_WITH_SMALL_V LAM_WITH_DOT_ABOVE LAM_WITH_THREE_DOTS_ABOVE
  LAM_WITH_THREE_DOTS_BELOW NOON_WITH_DOT_BELOW NOON_GHUNNA RNOON NOON_WITH_RING
  NOON_WITH_THREE_DOTS_ABOVE HEH_DOACHASHMEE TCHEH_WITH_DOT_ABOVE HEH_WITH_YEH_ABOVE HEH_GOAL
  HEH_GOAL_WITH_HAMZA_ABOVE TEH_MARBUTA_GOAL WAW_WITH_RING KIRGHIZ_OE OE U YU KIRGHIZ_YU
  WAW_WITH_TWO_DOTS_ABOVE VE FARSI_YEH YEH_WITH_TAIL YEH_WITH_SMALL_V WAW_WITH_DOT_ABOVE E
  YEH_WITH_THREE_DOTS_BELOW YEH_BARREE YEH_BARREE_WITH_HAMZA_ABOVE ARABIC_: FULL_STOP LETTER_AE
  ARABIC_SMALL_HIGH_: LIGATURE_SAD_WITH_LAM_WITH_ALEF_MAKSURA
  LIGATURE_QAF_WITH_LAM_WITH_ALEF_MAKSURA MEEM_INITIAL_FORM LAM_ALEF JEEM THREE_DOTS SEEN ARABIC_:
  END_OF_AYAH START_OF_RUB_EL_HIZB ARABIC_SMALL_: HIGH_ROUNDED_ZERO HIGH_UPRIGHT_RECTANGULAR_ZERO
  HIGH_DOTLESS_HEAD_OF_KHAH HIGH_MEEM_ISOLATED_FORM LOW_SEEN HIGH_MADDA WAW YEH HIGH_YEH HIGH_NOON
  ARABIC_: PLACE_OF_SAJDAH EMPTY_CENTRE_LOW_STOP EMPTY_CENTRE_HIGH_STOP
  ROUNDED_HIGH_STOP_WITH_FILLED_CENTRE SMALL_LOW_MEEM LETTER_DAL_WITH_INVERTED_V
  LETTER_REH_WITH_INVERTED_V EXTENDED_ARABIC-INDIC_DIGIT_: ZERO ONE TWO THREE FOUR FIVE SIX SEVEN
  EIGHT NINE ARABIC_LETTER_: SHEEN_WITH_DOT_BELOW DAD_WITH_DOT_BELOW GHAIN_WITH_DOT_BELOW
  ARABIC_SIGN_SINDHI_: AMPERSAND POSTPOSITION_MEN ARABIC_LETTER_HEH_WITH_INVERTED_: V SYRIAC_:
  END_OF_PARAGRAPH SUPRALINEAR_FULL_STOP SUBLINEAR_FULL_STOP SUPRALINEAR_COLON SUBLINEAR_COLON
  HORIZONTAL_COLON COLON_SKEWED_LEFT COLON_SKEWED_RIGHT SUPRALINEAR_COLON_SKEWED_LEFT
  SUBLINEAR_COLON_SKEWED_RIGHT CONTRACTION SYRIAC_HARKLEAN_: OBELUS METOBELUS ASTERISCUS @70F
  SYRIAC_ABBREVIATION_: MARK SYRIAC_LETTER_: ALAPH SUPERSCRIPT_ALAPH BETH GAMAL GAMAL_GARSHUNI
  DALATH DOTLESS_DALATH_RISH HE WAW ZAIN HETH TETH TETH_GARSHUNI YUDH YUDH_HE KAPH LAMADH MIM NUN
  SEMKATH FINAL_SEMKATH E PE REVERSED_PE SADHE QAPH RISH SHIN TAW PERSIAN_BHETH PERSIAN_GHAMAL
  PERSIAN_DHALATH SYRIAC_PTHAHA_: ABOVE BELOW DOTTED SYRIAC_ZQAPHA_: ABOVE BELOW DOTTED
  SYRIAC_RBASA_: ABOVE BELOW SYRIAC_DOTTED_ZLAMA_: HORIZONTAL ANGULAR SYRIAC_: HBASA_ABOVE
  HBASA_BELOW HBASA-ESASA_DOTTED ESASA_ABOVE ESASA_BELOW RWAHA FEMININE_DOT QUSHSHAYA RUKKAKHA
  SYRIAC_TWO_VERTICAL_DOTS_: ABOVE BELOW SYRIAC_THREE_DOTS_: ABOVE BELOW SYRIAC_OBLIQUE_LINE_:
  ABOVE BELOW SYRIAC_: MUSIC BARREKH @74D SYRIAC_LETTER_SOGDIAN_: ZHAIN KHAPH FE
  ARABIC_LETTER_BEH_WITH_: THREE_DOTS_HORIZONTALLY_BELOW DOT_BELOW_AND_THREE_DOTS_ABOVE
  THREE_DOTS_POINTING_UPWARDS_BELOW THREE_DOTS_POINTING_UPWARDS_BELOW_AND_TWO_DOTS_ABOVE
  TWO_DOTS_BELOW_AND_DOT_ABOVE INVERTED_SMALL_V_BELOW SMALL_V ARABIC_LETTER_:
  HAH_WITH_TWO_DOTS_ABOVE HAH_WITH_THREE_DOTS_POINTING_UPWARDS_BELOW
  DAL_WITH_TWO_DOTS_VERTICALLY_BELOW_AND_SMALL_TAH DAL_WITH_INVERTED_SMALL_V_BELOW REH_WITH_STROKE
  SEEN_WITH_FOUR_DOTS_ABOVE AIN_WITH_TWO_DOTS_ABOVE AIN_WITH_THREE_DOTS_POINTING_DOWNWARDS_ABOVE
  AIN_WITH_TWO_DOTS_VERTICALLY_ABOVE FEH_WITH_TWO_DOTS_BELOW
  FEH_WITH_THREE_DOTS_POINTING_UPWARDS_BELOW KEHEH_WITH_DOT_ABOVE KEHEH_WITH_THREE_DOTS_ABOVE
  KEHEH_WITH_THREE_DOTS_POINTING_UPWARDS_BELOW MEEM_WITH_DOT_ABOVE MEEM_WITH_DOT_BELOW
  NOON_WITH_TWO_DOTS_BELOW NOON_WITH_SMALL_TAH NOON_WITH_SMALL_V LAM_WITH_BAR
  REH_WITH_TWO_DOTS_VERTICALLY_ABOVE REH_WITH_HAMZA_ABOVE SEEN_WITH_TWO_DOTS_VERTICALLY_ABOVE
  ARABIC_LETTER_HAH_WITH_SMALL_ARABIC_LETTER_TAH_: BELOW AND_TWO_DOTS ARABIC_LETTER_:
  SEEN_WITH_SMALL_ARABIC_LETTER_TAH_AND_TWO_DOTS REH_WITH_SMALL_ARABIC_LETTER_TAH_AND_TWO_DOTS
  HAH_WITH_SMALL_ARABIC_LETTER_TAH_ABOVE ARABIC_LETTER_ALEF_WITH_EXTENDED_ARABIC-INDIC_DIGIT_:
  TWO_ABOVE THREE_ABOVE ARABIC_LETTER_FARSI_YEH_WITH_EXTENDED_ARABIC-INDIC_DIGIT_: TWO_ABOVE
  THREE_ABOVE FOUR_BELOW ARABIC_LETTER_WAW_WITH_EXTENDED_ARABIC-INDIC_DIGIT_: TWO_ABOVE THREE_ABOVE
  ARABIC_LETTER_YEH_BARREE_WITH_EXTENDED_ARABIC-INDIC_DIGIT_: TWO_ABOVE THREE_ABOVE ARABIC_LETTER_:
  HAH_WITH_EXTENDED_ARABIC-INDIC_DIGIT_FOUR_BELOW SEEN_WITH_EXTENDED_ARABIC-INDIC_DIGIT_FOUR_ABOVE
  SEEN_WITH_INVERTED_V KAF_WITH_TWO_DOTS_ABOVE THAANA_LETTER_: HAA SHAVIYANI NOONU RAA BAA
  LHAVIYANI KAAFU ALIFU VAAVU MEEMU FAAFU DHAALU THAA LAAMU GAAFU GNAVIYANI SEENU DAVIYANI ZAVIYANI
  TAVIYANI YAA PAVIYANI JAVIYANI CHAVIYANI TTAA HHAA KHAA THAALU ZAA SHEENU SAADHU DAADHU TO ZO
  AINU GHAINU QAAFU WAAVU THAANA_: ABAFILI AABAAFILI IBIFILI EEBEEFILI UBUFILI OOBOOFILI EBEFILI
  EYBEYFILI OBOFILI OABOAFILI SUKUN LETTER_NAA @7C0 NKO_DIGIT_: ZERO ONE TWO THREE FOUR FIVE SIX
  SEVEN EIGHT NINE NKO_LETTER_: A EE I E U OO O DAGBASINNA N BA PA TA JA CHA DA RA RRA SA GBA FA KA
  LA NA_WOLOSO MA NYA NA HA WA YA NYA_WOLOSO JONA_JA JONA_CHA JONA_RA NKO_COMBINING_:
  SHORT_HIGH_TONE SHORT_LOW_TONE SHORT_RISING_TONE LONG_DESCENDING_TONE LONG_HIGH_TONE
  LONG_LOW_TONE LONG_RISING_TONE NASALIZATION_MARK DOUBLE_DOT_ABOVE NKO_: HIGH_TONE_APOSTROPHE
  LOW_TONE_APOSTROPHE SYMBOL_OO_DENNEN SYMBOL_GBAKURUNEN COMMA EXCLAMATION_MARK LAJANYALAN @7FD
  DANTAYALAN DOROME_SIGN TAMAN_SIGN SAMARITAN_LETTER_: ALAF BIT GAMAN DALAT IY BAA ZEN IT TIT YUT
  KAAF LABAT MIM NUN SINGAAT IN FI TSAADIY QUF RISH SHAN TAAF SAMARITAN_MARK_: IN IN-ALAF OCCLUSION
  DAGESH SAMARITAN_: MODIFIER_LETTER_EPENTHETIC_YUT MARK_EPENTHETIC_YUT SAMARITAN_VOWEL_SIGN_:
  LONG_E E OVERLONG_AA LONG_AA AA OVERLONG_A LONG_A A SAMARITAN_: MODIFIER_LETTER_SHORT_A
  VOWEL_SIGN_SHORT_A VOWEL_SIGN_LONG_U VOWEL_SIGN_U MODIFIER_LETTER_I SAMARITAN_VOWEL_SIGN_: LONG_I
  I O SUKUN SAMARITAN_MARK_: NEQUDAA @830 SAMARITAN_PUNCTUATION_: NEQUDAA AFSAAQ ANGED BAU ATMAAU
  SHIYYAALAA SAMARITAN_ABBREVIATION_: MARK SAMARITAN_PUNCTUATION_: MELODIC_QITSA ZIQAA QITSA ZAEF
  TURU ARKAANU SOF_MASHFAAT ANNAAU @840 MANDAIC_LETTER_: HALQA AB AG AD AH USHENNA AZ IT ATT AKSA
  AK AL AM AN AS IN AP ASZ AQ AR ASH AT DUSHENNA KAD AIN MANDAIC_: AFFRICATION_MARK
  VOCALIZATION_MARK GEMINATION_MARK @85E PUNCTUATION @860 SYRIAC_LETTER_MALAYALAM_: NGA JA NYA TTA
  NNA NNNA BHA RA LLA LLLA SSA @870 ARABIC_LETTER_ALEF_WITH_: ATTACHED_FATHA
  ATTACHED_TOP_RIGHT_FATHA RIGHT_MIDDLE_STROKE LEFT_MIDDLE_STROKE ATTACHED_KASRA
  ATTACHED_BOTTOM_RIGHT_KASRA ATTACHED_ROUND_DOT_ABOVE ATTACHED_RIGHT_ROUND_DOT
  ATTACHED_LEFT_ROUND_DOT ATTACHED_ROUND_DOT_BELOW DOT_ABOVE ATTACHED_TOP_RIGHT_FATHA_AND_DOT_ABOVE
  RIGHT_MIDDLE_STROKE_AND_DOT_ABOVE ATTACHED_BOTTOM_RIGHT_KASRA_AND_DOT_ABOVE
  ATTACHED_TOP_RIGHT_FATHA_AND_LEFT_RING RIGHT_MIDDLE_STROKE_AND_LEFT_RING
  ATTACHED_BOTTOM_RIGHT_KASRA_AND_LEFT_RING ATTACHED_RIGHT_HAMZA ATTACHED_LEFT_HAMZA
  ARABIC_TATWEEL_WITH_: OVERSTRUCK_HAMZA OVERSTRUCK_WAW TWO_DOTS_BELOW ARABIC_: LETTER_THIN_YEH
  BASELINE_ROUND_DOT RAISED_ROUND_DOT ARABIC_LETTER_: NOON_WITH_INVERTED_SMALL_V
  HAH_WITH_INVERTED_SMALL_V_BELOW TAH_WITH_DOT_BELOW TAH_WITH_THREE_DOTS_BELOW
  KEHEH_WITH_TWO_DOTS_VERTICALLY_BELOW ARABIC_VERTICAL_: TAIL @890 ARABIC_: POUND_MARK_ABOVE
  PIASTRE_MARK_ABOVE @898 ARABIC_SMALL_HIGH_WORD_AL-: JUZ ARABIC_SMALL_LOW_WORD_: ISHMAAM IMAALA
  TASHEEL ARABIC_: MADDA_WAAJIB SUPERSCRIPT_ALEF_MOKHASSAS DOUBLED_MADDA HALF_MADDA_OVER_MADDA
  ARABIC_LETTER_: BEH_WITH_SMALL_V_BELOW BEH_WITH_HAMZA_ABOVE JEEM_WITH_TWO_DOTS_ABOVE
  TAH_WITH_TWO_DOTS_ABOVE FEH_WITH_DOT_BELOW_AND_THREE_DOTS_ABOVE QAF_WITH_DOT_BELOW
  LAM_WITH_DOUBLE_BAR MEEM_WITH_THREE_DOTS_ABOVE YEH_WITH_TWO_DOTS_BELOW_AND_HAMZA_ABOVE
  YEH_WITH_TWO_DOTS_BELOW_AND_DOT_ABOVE REH_WITH_LOOP WAW_WITH_DOT_WITHIN ROHINGYA_YEH LOW_ALEF
  DAL_WITH_THREE_DOTS_BELOW SAD_WITH_THREE_DOTS_BELOW GAF_WITH_INVERTED_STROKE STRAIGHT_WAW
  ZAIN_WITH_INVERTED_V_ABOVE AIN_WITH_THREE_DOTS_BELOW KAF_WITH_DOT_BELOW
  QAF_WITH_DOT_BELOW_AND_NO_DOTS_ABOVE BEH_WITH_SMALL_MEEM_ABOVE PEH_WITH_SMALL_MEEM_ABOVE
  TEH_WITH_SMALL_TEH_ABOVE REH_WITH_SMALL_NOON_ABOVE YEH_WITH_TWO_DOTS_BELOW_AND_SMALL_NOON_ABOVE
  AFRICAN_FEH AFRICAN_QAF AFRICAN_NOON PEH_WITH_SMALL_V TEH_WITH_SMALL_V TTEH_WITH_SMALL_V
  TCHEH_WITH_SMALL_V KEHEH_WITH_SMALL_V GHAIN_WITH_THREE_DOTS_ABOVE
  AFRICAN_QAF_WITH_THREE_DOTS_ABOVE JEEM_WITH_THREE_DOTS_ABOVE JEEM_WITH_THREE_DOTS_BELOW
  LAM_WITH_SMALL_ARABIC_LETTER_TAH_ABOVE GRAF ARABIC_SMALL_: FARSI_YEH HIGH_FARSI_YEH
  HIGH_YEH_BARREE_WITH_TWO_DOTS_BELOW HIGH_WORD_SAH HIGH_ZAH ARABIC_LARGE_ROUND_DOT_: ABOVE BELOW
  ARABIC_: SUKUN_BELOW LARGE_CIRCLE_BELOW LARGE_ROUND_DOT_INSIDE_CIRCLE_BELOW ARABIC_SMALL_:
  LOW_WAW HIGH_WORD_AR-RUB HIGH_SAD HIGH_AIN HIGH_QAF HIGH_NOON_WITH_KASRA LOW_NOON_WITH_KASRA
  ARABIC_SMALL_HIGH_WORD_: ATH-THALATHA AS-SAJDA AN-NISF SAKTA QIF WAQFA ARABIC_SMALL_HIGH_:
  FOOTNOTE_MARKER SIGN_SAFHA ARABIC_: DISPUTED_END_OF_AYAH TURNED_DAMMA_BELOW ARABIC_CURLY_: FATHA
  DAMMA KASRA FATHATAN DAMMATAN KASRATAN ARABIC_TONE_: ONE_DOT_ABOVE TWO_DOTS_ABOVE LOOP_ABOVE
  ONE_DOT_BELOW TWO_DOTS_BELOW LOOP_BELOW ARABIC_OPEN_: FATHATAN DAMMATAN KASRATAN ARABIC_:
  SMALL_HIGH_WAW FATHA_WITH_RING FATHA_WITH_DOT_ABOVE KASRA_WITH_DOT_BELOW LEFT_ARROWHEAD_ABOVE
  RIGHT_ARROWHEAD_ABOVE LEFT_ARROWHEAD_BELOW RIGHT_ARROWHEAD_BELOW ARABIC_DOUBLE_RIGHT_ARROWHEAD_:
  ABOVE ABOVE_WITH_DOT ARABIC_: RIGHT_ARROWHEAD_ABOVE_WITH_DOT DAMMA_WITH_DOT
  MARK_SIDEWAYS_NOON_GHUNNA DEVANAGARI_SIGN_: INVERTED_CANDRABINDU CANDRABINDU ANUSVARA VISARGA
  DEVANAGARI_LETTER_: SHORT_A A AA I II U UU VOCALIC_R VOCALIC_L CANDRA_E SHORT_E E AI CANDRA_O
  SHORT_O O AU KA KHA GA GHA NGA CA CHA JA JHA NYA TTA TTHA DDA DDHA NNA TA THA DA DHA NA NNNA PA
  PHA BA BHA MA YA RA RRA LA LLA LLLA VA SHA SSA SA HA DEVANAGARI_VOWEL_SIGN_: OE OOE
  DEVANAGARI_SIGN_: NUKTA AVAGRAHA DEVANAGARI_VOWEL_SIGN_: AA I II U UU VOCALIC_R VOCALIC_RR
  CANDRA_E SHORT_E E AI CANDRA_O SHORT_O O AU DEVANAGARI_: SIGN_VIRAMA VOWEL_SIGN_PRISHTHAMATRA_E
  VOWEL_SIGN_AW OM STRESS_SIGN_UDATTA STRESS_SIGN_ANUDATTA GRAVE_ACCENT ACUTE_ACCENT
  DEVANAGARI_VOWEL_SIGN_: CANDRA_LONG_E UE UUE DEVANAGARI_LETTER_: QA KHHA GHHA ZA DDDHA RHA FA YYA
  VOCALIC_RR VOCALIC_LL DEVANAGARI_VOWEL_SIGN_VOCALIC_: L LL DEVANAGARI_: DANDA DOUBLE_DANDA
  DEVANAGARI_DIGIT_: ZERO ONE TWO THREE FOUR FIVE SIX SEVEN EIGHT NINE DEVANAGARI_:
  ABBREVIATION_SIGN SIGN_HIGH_SPACING_DOT DEVANAGARI_LETTER_: CANDRA_A OE OOE AW UE UUE MARWARI_DDA
  ZHA HEAVY_YA GGA JJA GLOTTAL_STOP DDDA BBA BENGALI_: ANJI SIGN_CANDRABINDU SIGN_ANUSVARA
  SIGN_VISARGA @985 BENGALI_LETTER_: A AA I II U UU VOCALIC_R VOCALIC_L @98F E AI @993 O AU KA KHA
  GA GHA NGA CA CHA JA JHA NYA TTA TTHA DDA DDHA NNA TA THA DA DHA NA @9AA PA PHA BA BHA MA YA RA
  @9B2 LA @9B6 SHA SSA SA HA @9BC BENGALI_SIGN_: NUKTA AVAGRAHA BENGALI_VOWEL_SIGN_: AA I II U UU
  VOCALIC_R VOCALIC_RR @9C7 E AI @9CB O AU BENGALI_: SIGN_VIRAMA LETTER_KHANDA_TA @9D7
  BENGALI_AU_LENGTH_: MARK @9DC BENGALI_LETTER_: RRA RHA @9DF YYA VOCALIC_RR VOCALIC_LL
  BENGALI_VOWEL_SIGN_VOCALIC_: L LL @9E6 BENGALI_DIGIT_: ZERO ONE TWO THREE FOUR FIVE SIX SEVEN
  EIGHT NINE BENGALI_LETTER_RA_WITH_: MIDDLE_DIAGONAL LOWER_DIAGONAL BENGALI_RUPEE_: MARK SIGN
  BENGALI_CURRENCY_NUMERATOR_: ONE TWO THREE FOUR ONE_LESS_THAN_THE_DENOMINATOR BENGALI_:
  CURRENCY_DENOMINATOR_SIXTEEN ISSHAR GANDA_MARK LETTER_VEDIC_ANUSVARA ABBREVIATION_SIGN
  SANDHI_MARK @A01 GURMUKHI_SIGN_: ADAK_BINDI BINDI VISARGA @A05 GURMUKHI_LETTER_: A AA I II U UU
  @A0F EE AI @A13 OO AU KA KHA GA GHA NGA CA CHA JA JHA NYA TTA TTHA DDA DDHA NNA TA THA DA DHA NA
  @A2A PA PHA BA BHA MA YA RA @A32 LA LLA @A35 VA SHA @A38 SA HA @A3C GURMUKHI_SIGN_: NUKTA @A3E
  GURMUKHI_VOWEL_SIGN_: AA I II U UU @A47 EE AI @A4B GURMUKHI_: VOWEL_SIGN_OO VOWEL_SIGN_AU
  SIGN_VIRAMA @A51 GURMUKHI_SIGN_: UDAAT @A59 GURMUKHI_LETTER_: KHHA GHHA ZA RRA @A5E FA @A66
  GURMUKHI_DIGIT_: ZERO ONE TWO THREE FOUR FIVE SIX SEVEN EIGHT NINE GURMUKHI_: TIPPI ADDAK IRI URA
  EK_ONKAR SIGN_YAKASH ABBREVIATION_SIGN @A81 GUJARATI_SIGN_: CANDRABINDU ANUSVARA VISARGA @A85
  GUJARATI_LETTER_: A AA I II U UU VOCALIC_R VOCALIC_L GUJARATI_VOWEL_CANDRA_: E @A8F GUJARATI_:
  LETTER_E LETTER_AI VOWEL_CANDRA_O @A93 GUJARATI_LETTER_: O AU KA KHA GA GHA NGA CA CHA JA JHA NYA
  TTA TTHA DDA DDHA NNA TA THA DA DHA NA @AAA PA PHA BA BHA MA YA RA @AB2 LA LLA @AB5 VA SHA SSA SA
  HA @ABC GUJARATI_SIGN_: NUKTA AVAGRAHA GUJARATI_VOWEL_SIGN_: AA I II U UU VOCALIC_R VOCALIC_RR
  CANDRA_E @AC7 E AI CANDRA_O @ACB GUJARATI_: VOWEL_SIGN_O VOWEL_SIGN_AU SIGN_VIRAMA @AD0 OM @AE0
  GUJARATI_LETTER_VOCALIC_: RR LL GUJARATI_VOWEL_SIGN_VOCALIC_: L LL @AE6 GUJARATI_DIGIT_: ZERO ONE
  TWO THREE FOUR FIVE SIX SEVEN EIGHT NINE GUJARATI_: ABBREVIATION_SIGN RUPEE_SIGN @AF9
  GUJARATI_LETTER_: ZHA GUJARATI_SIGN_: SUKUN SHADDA MADDAH THREE-DOT_NUKTA_ABOVE
  CIRCLE_NUKTA_ABOVE TWO-CIRCLE_NUKTA_ABOVE @B01 ORIYA_SIGN_: CANDRABINDU ANUSVARA VISARGA @B05
  ORIYA_LETTER_: A AA I II U UU VOCALIC_R VOCALIC_L @B0F E AI @B13 O AU KA KHA GA GHA NGA CA CHA JA
  JHA NYA TTA TTHA DDA DDHA NNA TA THA DA DHA NA @B2A PA PHA BA BHA MA YA RA @B32 LA LLA @B35 VA
  SHA SSA SA HA @B3C ORIYA_SIGN_: NUKTA AVAGRAHA ORIYA_VOWEL_SIGN_: AA I II U UU VOCALIC_R
  VOCALIC_RR @B47 E AI @B4B O AU ORIYA_SIGN_: VIRAMA @B55 ORIYA_: SIGN_OVERLINE AI_LENGTH_MARK
  AU_LENGTH_MARK @B5C ORIYA_LETTER_: RRA RHA @B5F YYA VOCALIC_RR VOCALIC_LL
  ORIYA_VOWEL_SIGN_VOCALIC_: L LL @B66 ORIYA_DIGIT_: ZERO ONE TWO THREE FOUR FIVE SIX SEVEN EIGHT
  NINE ORIYA_: ISSHAR LETTER_WA ORIYA_FRACTION_: ONE_QUARTER ONE_HALF THREE_QUARTERS ONE_SIXTEENTH
  ONE_EIGHTH THREE_SIXTEENTHS @B82 TAMIL_SIGN_: ANUSVARA VISARGA @B85 TAMIL_LETTER_: A AA I II U UU
  @B8E E EE AI @B92 O OO AU KA @B99 NGA CA @B9C JA @B9E NYA TTA @BA3 NNA TA @BA8 NA NNNA PA @BAE MA
  YA RA RRA LA LLA LLLA VA SHA SSA SA HA @BBE TAMIL_VOWEL_SIGN_: AA I II U UU @BC6 E EE AI @BCA O
  OO AU TAMIL_SIGN_: VIRAMA @BD0 TAMIL_: OM @BD7 TAMIL_AU_LENGTH_: MARK @BE6 TAMIL_DIGIT_: ZERO ONE
  TWO THREE FOUR FIVE SIX SEVEN EIGHT NINE TAMIL_NUMBER_: TEN ONE_HUNDRED ONE_THOUSAND TAMIL_:
  DAY_SIGN MONTH_SIGN YEAR_SIGN DEBIT_SIGN CREDIT_SIGN AS_ABOVE_SIGN RUPEE_SIGN NUMBER_SIGN @C00
  TELUGU_SIGN_: COMBINING_CANDRABINDU_ABOVE CANDRABINDU ANUSVARA VISARGA COMBINING_ANUSVARA_ABOVE
  TELUGU_LETTER_: A AA I II U UU VOCALIC_R VOCALIC_L @C0E E EE AI @C12 O OO AU KA KHA GA GHA NGA CA
  CHA JA JHA NYA TTA TTHA DDA DDHA NNA TA THA DA DHA NA @C2A PA PHA BA BHA MA YA RA RRA LA LLA LLLA
  VA SHA SSA SA HA @C3C TELUGU_SIGN_: NUKTA AVAGRAHA TELUGU_VOWEL_SIGN_: AA I II U UU VOCALIC_R
  VOCALIC_RR @C46 E EE AI @C4A O OO AU TELUGU_SIGN_: VIRAMA @C55 TELUGU_: LENGTH_MARK
  AI_LENGTH_MARK @C58 TELUGU_LETTER_: TSA DZA RRRA @C5D TELUGU_LETTER_NAKAARA_: POLLU @C60
  TELUGU_LETTER_VOCALIC_: RR LL TELUGU_VOWEL_SIGN_VOCALIC_: L LL @C66 TELUGU_DIGIT_: ZERO ONE TWO
  THREE FOUR FIVE SIX SEVEN EIGHT NINE @C77 TELUGU_SIGN_: SIDDHAM TELUGU_FRACTION_DIGIT_:
  ZERO_FOR_ODD_POWERS_OF_FOUR ONE_FOR_ODD_POWERS_OF_FOUR TWO_FOR_ODD_POWERS_OF_FOUR
  THREE_FOR_ODD_POWERS_OF_FOUR ONE_FOR_EVEN_POWERS_OF_FOUR TWO_FOR_EVEN_POWERS_OF_FOUR
  THREE_FOR_EVEN_POWERS_OF_FOUR TELUGU_SIGN_: TUUMU KANNADA_SIGN_: SPACING_CANDRABINDU CANDRABINDU
  ANUSVARA VISARGA SIDDHAM KANNADA_LETTER_: A AA I II U UU VOCALIC_R VOCALIC_L @C8E E EE AI @C92 O
  OO AU KA KHA GA GHA NGA CA CHA JA JHA NYA TTA TTHA DDA DDHA NNA TA THA DA DHA NA @CAA PA PHA BA
  BHA MA YA RA RRA LA LLA @CB5 VA SHA SSA SA HA @CBC KANNADA_SIGN_: NUKTA AVAGRAHA
  KANNADA_VOWEL_SIGN_: AA I II U UU VOCALIC_R VOCALIC_RR @CC6 E EE AI @CCA O OO AU KANNADA_SIGN_:
  VIRAMA @CD5 KANNADA_: LENGTH_MARK AI_LENGTH_MARK @CDD KANNADA_LETTER_: NAKAARA_POLLU FA @CE0
  KANNADA_LETTER_VOCALIC_: RR LL KANNADA_VOWEL_SIGN_VOCALIC_: L LL @CE6 KANNADA_DIGIT_: ZERO ONE
  TWO THREE FOUR FIVE SIX SEVEN EIGHT NINE @CF1 KANNADA_SIGN_: JIHVAMULIYA UPADHMANIYA @D00
  MALAYALAM_SIGN_: COMBINING_ANUSVARA_ABOVE CANDRABINDU ANUSVARA VISARGA MALAYALAM_LETTER_:
  VEDIC_ANUSVARA A AA I II U UU VOCALIC_R VOCALIC_L @D0E E EE AI @D12 O OO AU KA KHA GA GHA NGA CA
  CHA JA JHA NYA TTA TTHA DDA DDHA NNA TA THA DA DHA NA NNNA PA PHA BA BHA MA YA RA RRA LA LLA LLLA
  VA SHA SSA SA HA TTTA MALAYALAM_SIGN_: VERTICAL_BAR_VIRAMA CIRCULAR_VIRAMA AVAGRAHA
  MALAYALAM_VOWEL_SIGN_: AA I II U UU VOCALIC_R VOCALIC_RR @D46 E EE AI @D4A O OO AU MALAYALAM_:
  SIGN_VIRAMA LETTER_DOT_REPH SIGN_PARA @D54 MALAYALAM_LETTER_CHILLU_: M Y LLL
  MALAYALAM_AU_LENGTH_: MARK MALAYALAM_FRACTION_: ONE_ONE-HUNDRED-AND-SIXTIETH ONE_FORTIETH
  THREE_EIGHTIETHS ONE_TWENTIETH ONE_TENTH THREE_TWENTIETHS ONE_FIFTH MALAYALAM_LETTER_: ARCHAIC_II
  VOCALIC_RR VOCALIC_LL MALAYALAM_VOWEL_SIGN_VOCALIC_: L LL @D66 MALAYALAM_DIGIT_: ZERO ONE TWO
  THREE FOUR FIVE SIX SEVEN EIGHT NINE MALAYALAM_NUMBER_: TEN ONE_HUNDRED ONE_THOUSAND
  MALAYALAM_FRACTION_: ONE_QUARTER ONE_HALF THREE_QUARTERS ONE_SIXTEENTH ONE_EIGHTH
  THREE_SIXTEENTHS MALAYALAM_DATE_: MARK MALAYALAM_LETTER_CHILLU_: NN N RR L LL K @D81
  SINHALA_SIGN_: CANDRABINDU ANUSVARAYA VISARGAYA @D85 SINHALA_LETTER_: AYANNA AAYANNA AEYANNA
  AEEYANNA IYANNA IIYANNA UYANNA UUYANNA IRUYANNA IRUUYANNA ILUYANNA ILUUYANNA EYANNA EEYANNA
  AIYANNA OYANNA OOYANNA AUYANNA @D9A ALPAPRAANA_KAYANNA MAHAAPRAANA_KAYANNA ALPAPRAANA_GAYANNA
  MAHAAPRAANA_GAYANNA KANTAJA_NAASIKYAYA SANYAKA_GAYANNA ALPAPRAANA_CAYANNA MAHAAPRAANA_CAYANNA
  ALPAPRAANA_JAYANNA MAHAAPRAANA_JAYANNA TAALUJA_NAASIKYAYA TAALUJA_SANYOOGA_NAAKSIKYAYA
  SANYAKA_JAYANNA ALPAPRAANA_TTAYANNA MAHAAPRAANA_TTAYANNA ALPAPRAANA_DDAYANNA MAHAAPRAANA_DDAYANNA
  MUURDHAJA_NAYANNA SANYAKA_DDAYANNA ALPAPRAANA_TAYANNA MAHAAPRAANA_TAYANNA ALPAPRAANA_DAYANNA
  MAHAAPRAANA_DAYANNA DANTAJA_NAYANNA @DB3 SANYAKA_DAYANNA ALPAPRAANA_PAYANNA MAHAAPRAANA_PAYANNA
  ALPAPRAANA_BAYANNA MAHAAPRAANA_BAYANNA MAYANNA AMBA_BAYANNA YAYANNA RAYANNA @DBD
  SINHALA_LETTER_DANTAJA_: LAYANNA @DC0 SINHALA_LETTER_: VAYANNA TAALUJA_SAYANNA MUURDHAJA_SAYANNA
  DANTAJA_SAYANNA HAYANNA MUURDHAJA_LAYANNA FAYANNA @DCA SINHALA_SIGN_AL-: LAKUNA @DCF
  SINHALA_VOWEL_SIGN_: AELA-PILLA KETTI_AEDA-PILLA DIGA_AEDA-PILLA KETTI_IS-PILLA DIGA_IS-PILLA
  KETTI_PAA-PILLA @DD6 SINHALA_VOWEL_SIGN_DIGA_PAA-: PILLA @DD8 SINHALA_VOWEL_SIGN_: GAETTA-PILLA
  KOMBUVA DIGA_KOMBUVA KOMBU_DEKA KOMBUVA_HAA_AELA-PILLA KOMBUVA_HAA_DIGA_AELA-PILLA
  KOMBUVA_HAA_GAYANUKITTA GAYANUKITTA @DE6 SINHALA_LITH_DIGIT_: ZERO ONE TWO THREE FOUR FIVE SIX
  SEVEN EIGHT NINE @DF2 SINHALA_VOWEL_SIGN_DIGA_: GAETTA-PILLA GAYANUKITTA SINHALA_PUNCTUATION_:
  KUNDDALIYA @E01 THAI_CHARACTER_: KO_KAI KHO_KHAI KHO_KHUAT KHO_KHWAI KHO_KHON KHO_RAKHANG NGO_NGU
  CHO_CHAN CHO_CHING CHO_CHANG SO_SO CHO_CHOE YO_YING DO_CHADA TO_PATAK THO_THAN THO_NANGMONTHO
  THO_PHUTHAO NO_NEN DO_DEK TO_TAO THO_THUNG THO_THAHAN THO_THONG NO_NU BO_BAIMAI PO_PLA PHO_PHUNG
  FO_FA PHO_PHAN FO_FAN PHO_SAMPHAO MO_MA YO_YAK RO_RUA RU LO_LING LU WO_WAEN SO_SALA SO_RUSI
  SO_SUA HO_HIP LO_CHULA O_ANG HO_NOKHUK PAIYANNOI SARA_A MAI_HAN-AKAT THAI_CHARACTER_SARA_: AA AM
  I II UE UEE U UU THAI_CHARACTER_: PHINTHU @E3F THAI_CURRENCY_SYMBOL_: BAHT THAI_CHARACTER_SARA_:
  E AE O AI_MAIMUAN AI_MAIMALAI THAI_CHARACTER_: LAKKHANGYAO MAIYAMOK MAITAIKHU MAI_EK MAI_THO
  MAI_TRI MAI_CHATTAWA THANTHAKHAT NIKHAHIT YAMAKKAN FONGMAN THAI_DIGIT_: ZERO ONE TWO THREE FOUR
  FIVE SIX SEVEN EIGHT NINE THAI_CHARACTER_: ANGKHANKHU KHOMUT @E81 LAO_LETTER_: KO KHO_SUNG @E84
  LAO_LETTER_KHO_: TAM @E86 LAO_LETTER_: PALI_GHA NGO CO PALI_CHA SO_TAM @E8C PALI_JHA NYO PALI_NYA
  PALI_TTA PALI_TTHA PALI_DDA PALI_DDHA PALI_NNA DO TO THO_SUNG THO_TAM PALI_DHA NO BO PO PHO_SUNG
  FO_TAM PHO_TAM FO_SUNG PALI_BHA MO YO LO_LING @EA5 LAO_LETTER_LO_: LOOT @EA7 LAO_LETTER_: WO
  SANSKRIT_SHA SANSKRIT_SSA SO_SUNG HO_SUNG PALI_LLA O HO_TAM LAO_: ELLIPSIS LAO_VOWEL_SIGN_: A
  MAI_KAN AA AM I II Y YY U UU LAO_: SIGN_PALI_VIRAMA VOWEL_SIGN_MAI_KON LAO_SEMIVOWEL_SIGN_: LO
  NYO @EC0 LAO_VOWEL_SIGN_: E EI O AY AI @EC6 LAO_KO_: LA @EC8 LAO_TONE_MAI_: EK THO TI CATAWA
  LAO_: CANCELLATION_MARK NIGGAHITA @ED0 LAO_DIGIT_: ZERO ONE TWO THREE FOUR FIVE SIX SEVEN EIGHT
  NINE @EDC LAO_HO_: NO MO LAO_LETTER_KHMU_: GO NYO @F00 TIBETAN_SYLLABLE_: OM
  TIBETAN_MARK_GTER_YIG_MGO_: TRUNCATED_A -UM_RNAM_BCAD_MA -UM_GTER_TSHEG_MA TIBETAN_MARK_:
  INITIAL_YIG_MGO_MDUN_MA CLOSING_YIG_MGO_SGAB_MA CARET_YIG_MGO_PHUR_SHAD_MA YIG_MGO_TSHEG_SHAD_MA
  SBRUL_SHAD BSKUR_YIG_MGO BKA-_SHOG_YIG_MGO INTERSYLLABIC_TSHEG DELIMITER_TSHEG_BSTAR SHAD
  NYIS_SHAD TSHEG_SHAD NYIS_TSHEG_SHAD RIN_CHEN_SPUNGS_SHAD RGYA_GRAM_SHAD
  CARET_-DZUD_RTAGS_ME_LONG_CAN GTER_TSHEG TIBETAN_LOGOTYPE_SIGN_: CHAD_RTAGS LHAG_RTAGS
  TIBETAN_ASTROLOGICAL_SIGN_: SGRA_GCAN_-CHAR_RTAGS -KHYUD_PA SDONG_TSHUGS TIBETAN_SIGN_RDEL_:
  DKAR_GCIG DKAR_GNYIS DKAR_GSUM NAG_GCIG NAG_GNYIS DKAR_RDEL_NAG TIBETAN_DIGIT_: ZERO ONE TWO
  THREE FOUR FIVE SIX SEVEN EIGHT NINE TIBETAN_DIGIT_HALF_: ONE TWO THREE FOUR FIVE SIX SEVEN EIGHT
  NINE ZERO TIBETAN_MARK_: BSDUS_RTAGS NGAS_BZUNG_NYI_ZLA CARET_-DZUD_RTAGS_BZHI_MIG_CAN
  NGAS_BZUNG_SGOR_RTAGS CHE_MGO TSA_-PHRU GUG_RTAGS_GYON GUG_RTAGS_GYAS ANG_KHANG_GYON
  ANG_KHANG_GYAS TIBETAN_SIGN_: YAR_TSHES MAR_TSHES TIBETAN_LETTER_: KA KHA GA GHA NGA CA CHA JA
  @F49 NYA TTA TTHA DDA DDHA NNA TA THA DA DHA NA PA PHA BA BHA MA TSA TSHA DZA DZHA WA ZHA ZA -A
  YA RA LA SHA SSA SA HA A KSSA FIXED-FORM_RA KKA RRA @F71 TIBETAN_VOWEL_SIGN_: AA I II U UU
  VOCALIC_R VOCALIC_RR VOCALIC_L VOCALIC_LL E EE O OO TIBETAN_SIGN_: RJES_SU_NGA_RO RNAM_BCAD
  TIBETAN_VOWEL_SIGN_REVERSED_: I II TIBETAN_: SIGN_NYI_ZLA_NAA_DA SIGN_SNA_LDAN MARK_HALANTA
  MARK_PALUTA TIBETAN_SIGN_: LCI_RTAGS YANG_RTAGS LCE_TSA_CAN MCHU_CAN GRU_CAN_RGYINGS
  GRU_MED_RGYINGS INVERTED_MCHU_CAN TIBETAN_SUBJOINED_SIGN_: LCE_TSA_CAN MCHU_CAN INVERTED_MCHU_CAN
  TIBETAN_SUBJOINED_LETTER_: KA KHA GA GHA NGA CA CHA JA @F99 NYA TTA TTHA DDA DDHA NNA TA THA DA
  DHA NA PA PHA BA BHA MA TSA TSHA DZA DZHA WA ZHA ZA -A YA RA LA SHA SSA SA HA A KSSA
  FIXED-FORM_WA FIXED-FORM_YA FIXED-FORM_RA @FBE TIBETAN_KU_RU_: KHA KHA_BZHI_MIG_CAN
  TIBETAN_CANTILLATION_SIGN_: HEAVY_BEAT LIGHT_BEAT CANG_TE-U SBUB_-CHAL TIBETAN_SYMBOL_: DRIL_BU
  RDO_RJE PADMA_GDAN RDO_RJE_RGYA_GRAM PHUR_PA NOR_BU NOR_BU_NYIS_-KHYIL NOR_BU_GSUM_-KHYIL
  NOR_BU_BZHI_-KHYIL @FCE TIBETAN_SIGN_RDEL_NAG_: RDEL_DKAR GSUM TIBETAN_MARK_:
  BSKA-_SHOG_GI_MGO_RGYAN MNYAM_YIG_GI_MGO_RGYAN NYIS_TSHEG INITIAL_BRDA_RNYING_YIG_MGO_MDUN_MA
  CLOSING_BRDA_RNYING_YIG_MGO_SGAB_MA : RIGHT-FACING_SVASTI_SIGN LEFT-FACING_SVASTI_SIGN
  RIGHT-FACING_SVASTI_SIGN_WITH_DOTS LEFT-FACING_SVASTI_SIGN_WITH_DOTS TIBETAN_MARK_:
  LEADING_MCHAN_RTAGS TRAILING_MCHAN_RTAGS @1000 MYANMAR_LETTER_: KA KHA GA GHA NGA CA CHA JA JHA
  NYA NNYA TTA TTHA DDA DDHA NNA TA THA DA DHA NA PA PHA BA BHA MA YA RA LA WA SA HA LLA A SHAN_A I
  II U UU E MON_E O AU MYANMAR_VOWEL_SIGN_: TALL_AA AA I II U UU E AI MON_II MON_O E_ABOVE
  MYANMAR_SIGN_: ANUSVARA DOT_BELOW VISARGA VIRAMA ASAT MYANMAR_CONSONANT_SIGN_MEDIAL_: YA RA WA HA
  MYANMAR_LETTER_GREAT_: SA MYANMAR_DIGIT_: ZERO ONE TWO THREE FOUR FIVE SIX SEVEN EIGHT NINE
  MYANMAR_SIGN_: LITTLE_SECTION SECTION MYANMAR_SYMBOL_: LOCATIVE COMPLETED AFOREMENTIONED GENITIVE
  MYANMAR_LETTER_: SHA SSA MYANMAR_LETTER_VOCALIC_: R RR L LL MYANMAR_VOWEL_SIGN_VOCALIC_: R RR L
  LL MYANMAR_LETTER_MON_: NGA JHA BBA BBE MYANMAR_CONSONANT_SIGN_MON_MEDIAL_: NA MA LA MYANMAR_:
  LETTER_SGAW_KAREN_SHA VOWEL_SIGN_SGAW_KAREN_EU MYANMAR_TONE_MARK_SGAW_KAREN_: HATHI KE_PHO
  MYANMAR_LETTER_WESTERN_PWO_KAREN_: THA PWA MYANMAR_VOWEL_SIGN_WESTERN_PWO_KAREN_: EU UE
  MYANMAR_SIGN_WESTERN_PWO_KAREN_TONE-: 1 2 3 4 5 MYANMAR_LETTER_EASTERN_PWO_KAREN_: NNA YWA GHWA
  MYANMAR_VOWEL_SIGN_: GEBA_KAREN_I KAYAH_OE KAYAH_U KAYAH_EE MYANMAR_LETTER_SHAN_: KA KHA GA CA ZA
  NYA DA NA PHA FA BA THA HA MYANMAR_CONSONANT_SIGN_SHAN_MEDIAL_: WA MYANMAR_VOWEL_SIGN_SHAN_: AA E
  E_ABOVE FINAL_Y MYANMAR_SIGN_SHAN_TONE-: 2 3 5 6 MYANMAR_SIGN_SHAN_COUNCIL_: TONE-2 TONE-3
  EMPHATIC_TONE MYANMAR_: LETTER_RUMAI_PALAUNG_FA SIGN_RUMAI_PALAUNG_TONE-5 MYANMAR_SHAN_DIGIT_:
  ZERO ONE TWO THREE FOUR FIVE SIX SEVEN EIGHT NINE MYANMAR_SIGN_KHAMTI_TONE-: 1 3
  MYANMAR_VOWEL_SIGN_AITON_: A AI MYANMAR_SYMBOL_SHAN_: ONE EXCLAMATION GEORGIAN_CAPITAL_LETTER_:
  AN BAN GAN DON EN VIN ZEN TAN IN KAN LAS MAN NAR ON PAR ZHAR RAE SAN TAR UN PHAR KHAR GHAN QAR
  SHIN CHIN CAN JIL CIL CHAR XAN JHAN HAE HE HIE WE HAR HOE @10C7 YN @10CD AEN @10D0
  GEORGIAN_LETTER_: AN BAN GAN DON EN VIN ZEN TAN IN KAN LAS MAN NAR ON PAR ZHAR RAE SAN TAR UN
  PHAR KHAR GHAN QAR SHIN CHIN CAN JIL CIL CHAR XAN JHAN HAE HE HIE WE HAR HOE FI YN ELIFI
  TURNED_GAN AIN : GEORGIAN_PARAGRAPH_SEPARATOR MODIFIER_LETTER_GEORGIAN_NAR GEORGIAN_LETTER_: AEN
  HARD_SIGN LABIAL_SIGN HANGUL_CHOSEONG_: KIYEOK SSANGKIYEOK NIEUN TIKEUT SSANGTIKEUT RIEUL MIEUM
  PIEUP SSANGPIEUP SIOS SSANGSIOS IEUNG CIEUC SSANGCIEUC CHIEUCH KHIEUKH THIEUTH PHIEUPH HIEUH
  NIEUN-KIYEOK SSANGNIEUN NIEUN-TIKEUT NIEUN-PIEUP TIKEUT-KIYEOK RIEUL-NIEUN SSANGRIEUL RIEUL-HIEUH
  KAPYEOUNRIEUL MIEUM-PIEUP KAPYEOUNMIEUM HANGUL_CHOSEONG_PIEUP-: KIYEOK NIEUN TIKEUT SIOS
  SIOS-KIYEOK SIOS-TIKEUT SIOS-PIEUP SSANGSIOS SIOS-CIEUC CIEUC CHIEUCH THIEUTH PHIEUPH
  HANGUL_CHOSEONG_: KAPYEOUNPIEUP KAPYEOUNSSANGPIEUP HANGUL_CHOSEONG_SIOS-: KIYEOK NIEUN TIKEUT
  RIEUL MIEUM PIEUP PIEUP-KIYEOK SSANGSIOS IEUNG CIEUC CHIEUCH KHIEUKH THIEUTH PHIEUPH HIEUH
  HANGUL_CHOSEONG_: CHITUEUMSIOS CHITUEUMSSANGSIOS CEONGCHIEUMSIOS CEONGCHIEUMSSANGSIOS PANSIOS
  IEUNG-KIYEOK IEUNG-TIKEUT IEUNG-MIEUM IEUNG-PIEUP IEUNG-SIOS IEUNG-PANSIOS SSANGIEUNG IEUNG-CIEUC
  IEUNG-CHIEUCH IEUNG-THIEUTH IEUNG-PHIEUPH YESIEUNG CIEUC-IEUNG CHITUEUMCIEUC CHITUEUMSSANGCIEUC
  CEONGCHIEUMCIEUC CEONGCHIEUMSSANGCIEUC CHIEUCH-KHIEUKH CHIEUCH-HIEUH CHITUEUMCHIEUCH
  CEONGCHIEUMCHIEUCH PHIEUPH-PIEUP KAPYEOUNPHIEUPH SSANGHIEUH YEORINHIEUH KIYEOK-TIKEUT NIEUN-SIOS
  NIEUN-CIEUC NIEUN-HIEUH TIKEUT-RIEUL FILLER HANGUL_JUNGSEONG_: FILLER A AE YA YAE EO E YEO YE O
  WA WAE OE YO U WEO WE WI YU EU YI I A-O A-U YA-O YA-YO EO-O EO-U EO-EU YEO-O YEO-U O-EO O-E O-YE
  O-O O-U YO-YA YO-YAE YO-YEO YO-O YO-I U-A U-AE U-EO-EU U-YE U-U YU-A YU-EO YU-E YU-YEO YU-YE YU-U
  YU-I EU-U EU-EU YI-U I-A I-YA I-O I-U I-EU I-ARAEA ARAEA ARAEA-EO ARAEA-U ARAEA-I SSANGARAEA A-EU
  YA-U YEO-YA O-YA O-YAE HANGUL_JONGSEONG_: KIYEOK SSANGKIYEOK KIYEOK-SIOS NIEUN NIEUN-CIEUC
  NIEUN-HIEUH TIKEUT RIEUL RIEUL-KIYEOK RIEUL-MIEUM RIEUL-PIEUP RIEUL-SIOS RIEUL-THIEUTH
  RIEUL-PHIEUPH RIEUL-HIEUH MIEUM PIEUP PIEUP-SIOS SIOS SSANGSIOS IEUNG CIEUC CHIEUCH KHIEUKH
  THIEUTH PHIEUPH HIEUH KIYEOK-RIEUL KIYEOK-SIOS-KIYEOK NIEUN-KIYEOK NIEUN-TIKEUT NIEUN-SIOS
  NIEUN-PANSIOS NIEUN-THIEUTH TIKEUT-KIYEOK TIKEUT-RIEUL RIEUL-KIYEOK-SIOS RIEUL-NIEUN RIEUL-TIKEUT
  RIEUL-TIKEUT-HIEUH SSANGRIEUL HANGUL_JONGSEONG_RIEUL-: MIEUM-KIYEOK MIEUM-SIOS PIEUP-SIOS
  PIEUP-HIEUH KAPYEOUNPIEUP SSANGSIOS PANSIOS KHIEUKH YEORINHIEUH HANGUL_JONGSEONG_MIEUM-: KIYEOK
  RIEUL PIEUP SIOS SSANGSIOS PANSIOS CHIEUCH HIEUH HANGUL_JONGSEONG_: KAPYEOUNMIEUM PIEUP-RIEUL
  PIEUP-PHIEUPH PIEUP-HIEUH KAPYEOUNPIEUP SIOS-KIYEOK SIOS-TIKEUT SIOS-RIEUL SIOS-PIEUP PANSIOS
  IEUNG-KIYEOK IEUNG-SSANGKIYEOK SSANGIEUNG IEUNG-KHIEUKH YESIEUNG YESIEUNG-SIOS YESIEUNG-PANSIOS
  PHIEUPH-PIEUP KAPYEOUNPHIEUPH HIEUH-NIEUN HIEUH-RIEUL HIEUH-MIEUM HIEUH-PIEUP YEORINHIEUH
  KIYEOK-NIEUN KIYEOK-PIEUP KIYEOK-CHIEUCH KIYEOK-KHIEUKH KIYEOK-HIEUH SSANGNIEUN
  ETHIOPIC_SYLLABLE_: HA HU HI HAA HEE HE HO HOA LA LU LI LAA LEE LE LO LWA HHA HHU HHI HHAA HHEE
  HHE HHO HHWA MA MU MI MAA MEE ME MO MWA SZA SZU SZI SZAA SZEE SZE SZO SZWA RA RU RI RAA REE RE RO
  RWA SA SU SI SAA SEE SE SO SWA SHA SHU SHI SHAA SHEE SHE SHO SHWA QA QU QI QAA QEE QE QO QOA QWA
  @124A QWI QWAA QWEE QWE @1250 QHA QHU QHI QHAA QHEE QHE QHO @1258 QHWA @125A QHWI QHWAA QHWEE
  QHWE @1260 BA BU BI BAA BEE BE BO BWA VA VU VI VAA VEE VE VO VWA TA TU TI TAA TEE TE TO TWA CA CU
  CI CAA CEE CE CO CWA XA XU XI XAA XEE XE XO XOA XWA @128A XWI XWAA XWEE XWE @1290 NA NU NI NAA
  NEE NE NO NWA NYA NYU NYI NYAA NYEE NYE NYO NYWA ETHIOPIC_SYLLABLE_GLOTTAL_: A U I AA EE E O WA
  ETHIOPIC_SYLLABLE_: KA KU KI KAA KEE KE KO KOA KWA @12B2 KWI KWAA KWEE KWE @12B8 KXA KXU KXI KXAA
  KXEE KXE KXO @12C0 KXWA @12C2 KXWI KXWAA KXWEE KXWE @12C8 WA WU WI WAA WEE WE WO WOA
  ETHIOPIC_SYLLABLE_PHARYNGEAL_: A U I AA EE E O @12D8 ETHIOPIC_SYLLABLE_: ZA ZU ZI ZAA ZEE ZE ZO
  ZWA ZHA ZHU ZHI ZHAA ZHEE ZHE ZHO ZHWA YA YU YI YAA YEE YE YO YOA DA DU DI DAA DEE DE DO DWA DDA
  DDU DDI DDAA DDEE DDE DDO DDWA JA JU JI JAA JEE JE JO JWA GA GU GI GAA GEE GE GO GOA GWA @1312
  GWI GWAA GWEE GWE @1318 GGA GGU GGI GGAA GGEE GGE GGO GGWAA THA THU THI THAA THEE THE THO THWA
  CHA CHU CHI CHAA CHEE CHE CHO CHWA PHA PHU PHI PHAA PHEE PHE PHO PHWA TSA TSU TSI TSAA TSEE TSE
  TSO TSWA TZA TZU TZI TZAA TZEE TZE TZO TZOA FA FU FI FAA FEE FE FO FWA PA PU PI PAA PEE PE PO PWA
  RYA MYA FYA @135D ETHIOPIC_COMBINING_: GEMINATION_AND_VOWEL_LENGTH_MARK VOWEL_LENGTH_MARK
  GEMINATION_MARK ETHIOPIC_: SECTION_MARK WORDSPACE FULL_STOP COMMA SEMICOLON COLON PREFACE_COLON
  QUESTION_MARK PARAGRAPH_SEPARATOR ETHIOPIC_DIGIT_: ONE TWO THREE FOUR FIVE SIX SEVEN EIGHT NINE
  ETHIOPIC_NUMBER_: TEN TWENTY THIRTY FORTY FIFTY SIXTY SEVENTY EIGHTY NINETY HUNDRED TEN_THOUSAND
  @1380 ETHIOPIC_SYLLABLE_: SEBATBEIT_MWA MWI MWEE MWE SEBATBEIT_BWA BWI BWEE BWE SEBATBEIT_FWA FWI
  FWEE FWE SEBATBEIT_PWA PWI PWEE PWE ETHIOPIC_TONAL_MARK_: YIZET DERET RIKRIK SHORT_RIKRIK DIFAT
  KENAT CHIRET HIDET DERET-HIDET KURT @13A0 CHEROKEE_LETTER_: A E I O U V GA KA GE GI GO GU GV HA
  HE HI HO HU HV LA LE LI LO LU LV MA ME MI MO MU NA HNA NAH NE NI NO NU NV QUA QUE QUI QUO QUU QUV
  SA S SE SI SO SU SV DA TA DE TE DI TI DO DU DV DLA TLA TLE TLI TLO TLU TLV TSA TSE TSI TSO TSU
  TSV WA WE WI WO WU WV YA YE YI YO YU YV MV @13F8 CHEROKEE_SMALL_LETTER_: YE YI YO YU YV MV
"

end EntityScaffold.Text.CharacterName
