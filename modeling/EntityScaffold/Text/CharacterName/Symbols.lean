/-
Names of punctuation, signs and symbols, U+2000 to U+2FFF.
-/

namespace EntityScaffold.Text.CharacterName

/-- The words of the table, with blanks between them. -/
def symbolNames : String := "
  @2000 EN_QUAD EM_QUAD EN_SPACE EM_SPACE THREE-PER-EM_SPACE FOUR-PER-EM_SPACE SIX-PER-EM_SPACE
  FIGURE_SPACE PUNCTUATION_SPACE THIN_SPACE HAIR_SPACE ZERO_WIDTH_: SPACE NON-JOINER JOINER :
  LEFT-TO-RIGHT_MARK RIGHT-TO-LEFT_MARK HYPHEN NON-BREAKING_HYPHEN FIGURE_DASH EN_DASH EM_DASH
  HORIZONTAL_BAR DOUBLE_: VERTICAL_LINE LOW_LINE : LEFT_SINGLE_QUOTATION_MARK
  RIGHT_SINGLE_QUOTATION_MARK SINGLE_: LOW-9_QUOTATION_MARK HIGH-REVERSED-9_QUOTATION_MARK :
  LEFT_DOUBLE_QUOTATION_MARK RIGHT_DOUBLE_QUOTATION_MARK DOUBLE_: LOW-9_QUOTATION_MARK
  HIGH-REVERSED-9_QUOTATION_MARK : DAGGER DOUBLE_DAGGER BULLET TRIANGULAR_BULLET ONE_DOT_LEADER
  TWO_DOT_LEADER HORIZONTAL_ELLIPSIS HYPHENATION_POINT LINE_SEPARATOR PARAGRAPH_SEPARATOR
  LEFT-TO-RIGHT_EMBEDDING RIGHT-TO-LEFT_EMBEDDING POP_DIRECTIONAL_FORMATTING LEFT-TO-RIGHT_OVERRIDE
  RIGHT-TO-LEFT_OVERRIDE NARROW_NO-BREAK_SPACE PER_MILLE_SIGN PER_TEN_THOUSAND_SIGN PRIME
  DOUBLE_PRIME TRIPLE_PRIME REVERSED_: PRIME DOUBLE_PRIME TRIPLE_PRIME : CARET SINGLE_:
  LEFT-POINTING_ANGLE_QUOTATION_MARK RIGHT-POINTING_ANGLE_QUOTATION_MARK : REFERENCE_MARK
  DOUBLE_EXCLAMATION_MARK INTERROBANG OVERLINE UNDERTIE CHARACTER_TIE CARET_INSERTION_POINT
  ASTERISM HYPHEN_BULLET FRACTION_SLASH LEFT_SQUARE_BRACKET_WITH_QUILL
  RIGHT_SQUARE_BRACKET_WITH_QUILL DOUBLE_QUESTION_MARK QUESTION_EXCLAMATION_MARK
  EXCLAMATION_QUESTION_MARK TIRONIAN_SIGN_ET REVERSED_PILCROW_SIGN BLACK_: LEFTWARDS_BULLET
  RIGHTWARDS_BULLET : LOW_ASTERISK REVERSED_SEMICOLON CLOSE_UP TWO_ASTERISKS_ALIGNED_VERTICALLY
  COMMERCIAL_MINUS_SIGN SWUNG_DASH INVERTED_UNDERTIE FLOWER_PUNCTUATION_MARK THREE_DOT_PUNCTUATION
  QUADRUPLE_PRIME FOUR_DOT_PUNCTUATION FIVE_DOT_PUNCTUATION TWO_DOT_PUNCTUATION FOUR_DOT_MARK
  DOTTED_CROSS TRICOLON VERTICAL_FOUR_DOTS MEDIUM_MATHEMATICAL_SPACE WORD_JOINER
  FUNCTION_APPLICATION INVISIBLE_: TIMES SEPARATOR PLUS @2066 : LEFT-TO-RIGHT_ISOLATE
  RIGHT-TO-LEFT_ISOLATE FIRST_STRONG_ISOLATE POP_DIRECTIONAL_ISOLATE INHIBIT_SYMMETRIC_SWAPPING
  ACTIVATE_SYMMETRIC_SWAPPING INHIBIT_ARABIC_FORM_SHAPING ACTIVATE_ARABIC_FORM_SHAPING
  NATIONAL_DIGIT_SHAPES NOMINAL_DIGIT_SHAPES SUPERSCRIPT_: ZERO LATIN_SMALL_LETTER_I @2074 FOUR
  FIVE SIX SEVEN EIGHT NINE PLUS_SIGN MINUS EQUALS_SIGN LEFT_PARENTHESIS RIGHT_PARENTHESIS
  LATIN_SMALL_LETTER_N SUBSCRIPT_: ZERO ONE TWO THREE FOUR FIVE SIX SEVEN EIGHT NINE PLUS_SIGN
  MINUS EQUALS_SIGN LEFT_PARENTHESIS RIGHT_PARENTHESIS @2090 LATIN_SUBSCRIPT_SMALL_LETTER_: A E O X
  SCHWA H K L M N P S T @20A0 : EURO-CURRENCY_SIGN COLON_SIGN CRUZEIRO_SIGN FRENCH_FRANC_SIGN
  LIRA_SIGN MILL_SIGN NAIRA_SIGN PESETA_SIGN RUPEE_SIGN WON_SIGN NEW_SHEQEL_SIGN DONG_SIGN
  EURO_SIGN KIP_SIGN TUGRIK_SIGN DRACHMA_SIGN GERMAN_PENNY_SIGN PESO_SIGN GUARANI_SIGN AUSTRAL_SIGN
  HRYVNIA_SIGN CEDI_SIGN LIVRE_TOURNOIS_SIGN SPESMILO_SIGN TENGE_SIGN INDIAN_RUPEE_SIGN
  TURKISH_LIRA_SIGN NORDIC_MARK_SIGN MANAT_SIGN RUBLE_SIGN LARI_SIGN BITCOIN_SIGN SOM_SIGN @20D0
  COMBINING_: LEFT_HARPOON_ABOVE RIGHT_HARPOON_ABOVE LONG_VERTICAL_LINE_OVERLAY
  SHORT_VERTICAL_LINE_OVERLAY ANTICLOCKWISE_ARROW_ABOVE CLOCKWISE_ARROW_ABOVE LEFT_ARROW_ABOVE
  RIGHT_ARROW_ABOVE RING_OVERLAY CLOCKWISE_RING_OVERLAY ANTICLOCKWISE_RING_OVERLAY THREE_DOTS_ABOVE
  FOUR_DOTS_ABOVE COMBINING_ENCLOSING_: CIRCLE SQUARE DIAMOND CIRCLE_BACKSLASH COMBINING_:
  LEFT_RIGHT_ARROW_ABOVE ENCLOSING_SCREEN ENCLOSING_KEYCAP ENCLOSING_UPWARD_POINTING_TRIANGLE
  REVERSE_SOLIDUS_OVERLAY DOUBLE_VERTICAL_STROKE_OVERLAY ANNUITY_SYMBOL TRIPLE_UNDERDOT
  WIDE_BRIDGE_ABOVE LEFTWARDS_ARROW_OVERLAY LONG_DOUBLE_SOLIDUS_OVERLAY
  RIGHTWARDS_HARPOON_WITH_BARB_DOWNWARDS LEFTWARDS_HARPOON_WITH_BARB_DOWNWARDS LEFT_ARROW_BELOW
  RIGHT_ARROW_BELOW ASTERISK_ABOVE @2100 : ACCOUNT_OF ADDRESSED_TO_THE_SUBJECT
  DOUBLE-STRUCK_CAPITAL_C DEGREE_CELSIUS CENTRE_LINE_SYMBOL CARE_OF CADA_UNA EULER_CONSTANT SCRUPLE
  DEGREE_FAHRENHEIT SCRIPT_: SMALL_G CAPITAL_H : BLACK-LETTER_CAPITAL_H DOUBLE-STRUCK_CAPITAL_H
  PLANCK_: CONSTANT CONSTANT_OVER_TWO_PI : SCRIPT_CAPITAL_I BLACK-LETTER_CAPITAL_I SCRIPT_:
  CAPITAL_L SMALL_L : L_B_BAR_SYMBOL DOUBLE-STRUCK_CAPITAL_N NUMERO_SIGN SOUND_RECORDING_COPYRIGHT
  SCRIPT_CAPITAL_P DOUBLE-STRUCK_CAPITAL_: P Q : SCRIPT_CAPITAL_R BLACK-LETTER_CAPITAL_R
  DOUBLE-STRUCK_CAPITAL_R PRESCRIPTION_TAKE RESPONSE SERVICE_MARK TELEPHONE_SIGN TRADE_MARK_SIGN
  VERSICLE DOUBLE-STRUCK_CAPITAL_Z OUNCE_SIGN OHM_SIGN INVERTED_OHM_SIGN BLACK-LETTER_CAPITAL_Z
  TURNED_GREEK_SMALL_LETTER_IOTA KELVIN_SIGN ANGSTROM_SIGN SCRIPT_CAPITAL_B BLACK-LETTER_CAPITAL_C
  ESTIMATED_SYMBOL SCRIPT_SMALL_E SCRIPT_CAPITAL_: E F TURNED_CAPITAL_: F SCRIPT_: CAPITAL_M
  SMALL_O : ALEF_SYMBOL BET_SYMBOL GIMEL_SYMBOL DALET_SYMBOL INFORMATION_SOURCE ROTATED_CAPITAL_Q
  FACSIMILE_SIGN DOUBLE-STRUCK_: SMALL_PI SMALL_GAMMA CAPITAL_GAMMA CAPITAL_PI N-ARY_SUMMATION
  TURNED_SANS-SERIF_CAPITAL_: G L : REVERSED_SANS-SERIF_CAPITAL_L TURNED_SANS-SERIF_CAPITAL_Y
  DOUBLE-STRUCK_ITALIC_: CAPITAL_D SMALL_D SMALL_E SMALL_I SMALL_J : PROPERTY_LINE TURNED_AMPERSAND
  PER_SIGN AKTIESELSKAB TURNED_SMALL_F SYMBOL_FOR_SAMARITAN_SOURCE VULGAR_FRACTION_: ONE_SEVENTH
  ONE_NINTH ONE_TENTH ONE_THIRD TWO_THIRDS ONE_FIFTH TWO_FIFTHS THREE_FIFTHS FOUR_FIFTHS ONE_SIXTH
  FIVE_SIXTHS ONE_EIGHTH THREE_EIGHTHS FIVE_EIGHTHS SEVEN_EIGHTHS FRACTION_NUMERATOR_: ONE
  ROMAN_NUMERAL_: ONE TWO THREE FOUR FIVE SIX SEVEN EIGHT NINE TEN ELEVEN TWELVE FIFTY ONE_HUNDRED
  FIVE_HUNDRED ONE_THOUSAND SMALL_ROMAN_NUMERAL_: ONE TWO THREE FOUR FIVE SIX SEVEN EIGHT NINE TEN
  ELEVEN TWELVE FIFTY ONE_HUNDRED FIVE_HUNDRED ONE_THOUSAND ROMAN_NUMERAL_: ONE_THOUSAND_C_D
  FIVE_THOUSAND TEN_THOUSAND REVERSED_ONE_HUNDRED LATIN_SMALL_LETTER_REVERSED_: C ROMAN_NUMERAL_:
  SIX_LATE_FORM FIFTY_EARLY_FORM FIFTY_THOUSAND ONE_HUNDRED_THOUSAND VULGAR_FRACTION_ZERO_: THIRDS
  TURNED_DIGIT_: TWO THREE @2190 : LEFTWARDS_ARROW UPWARDS_ARROW RIGHTWARDS_ARROW DOWNWARDS_ARROW
  LEFT_RIGHT_ARROW UP_DOWN_ARROW NORTH_: WEST_ARROW EAST_ARROW SOUTH_: EAST_ARROW WEST_ARROW :
  LEFTWARDS_ARROW_WITH_STROKE RIGHTWARDS_ARROW_WITH_STROKE LEFTWARDS_WAVE_ARROW
  RIGHTWARDS_WAVE_ARROW LEFTWARDS_TWO_HEADED_ARROW UPWARDS_TWO_HEADED_ARROW
  RIGHTWARDS_TWO_HEADED_ARROW DOWNWARDS_TWO_HEADED_ARROW LEFTWARDS_ARROW_WITH_TAIL
  RIGHTWARDS_ARROW_WITH_TAIL LEFTWARDS_ARROW_FROM_BAR UPWARDS_ARROW_FROM_BAR
  RIGHTWARDS_ARROW_FROM_BAR DOWNWARDS_ARROW_FROM_BAR UP_DOWN_ARROW_WITH_BASE
  LEFTWARDS_ARROW_WITH_HOOK RIGHTWARDS_ARROW_WITH_HOOK LEFTWARDS_ARROW_WITH_LOOP
  RIGHTWARDS_ARROW_WITH_LOOP LEFT_RIGHT_: WAVE_ARROW ARROW_WITH_STROKE DOWNWARDS_ZIGZAG_: ARROW
  UPWARDS_ARROW_WITH_TIP_: LEFTWARDS RIGHTWARDS DOWNWARDS_ARROW_WITH_TIP_: LEFTWARDS RIGHTWARDS :
  RIGHTWARDS_ARROW_WITH_CORNER_DOWNWARDS DOWNWARDS_ARROW_WITH_CORNER_LEFTWARDS
  ANTICLOCKWISE_TOP_SEMICIRCLE_ARROW CLOCKWISE_TOP_SEMICIRCLE_ARROW NORTH_WEST_ARROW_TO_LONG_BAR
  LEFTWARDS_ARROW_TO_BAR_OVER_RIGHTWARDS_ARROW_TO_BAR ANTICLOCKWISE_OPEN_CIRCLE_ARROW
  CLOCKWISE_OPEN_CIRCLE_ARROW LEFTWARDS_HARPOON_WITH_BARB_: UPWARDS DOWNWARDS
  UPWARDS_HARPOON_WITH_BARB_: RIGHTWARDS LEFTWARDS RIGHTWARDS_HARPOON_WITH_BARB_: UPWARDS DOWNWARDS
  DOWNWARDS_HARPOON_WITH_BARB_: RIGHTWARDS LEFTWARDS : RIGHTWARDS_ARROW_OVER_LEFTWARDS_ARROW
  UPWARDS_ARROW_LEFTWARDS_OF_DOWNWARDS_ARROW LEFTWARDS_: ARROW_OVER_RIGHTWARDS_ARROW PAIRED_ARROWS
  : UPWARDS_PAIRED_ARROWS RIGHTWARDS_PAIRED_ARROWS DOWNWARDS_PAIRED_ARROWS
  LEFTWARDS_HARPOON_OVER_RIGHTWARDS_HARPOON RIGHTWARDS_HARPOON_OVER_LEFTWARDS_HARPOON
  LEFTWARDS_DOUBLE_ARROW_WITH_STROKE LEFT_RIGHT_DOUBLE_ARROW_WITH_STROKE
  RIGHTWARDS_DOUBLE_ARROW_WITH_STROKE LEFTWARDS_DOUBLE_ARROW UPWARDS_DOUBLE_ARROW
  RIGHTWARDS_DOUBLE_ARROW DOWNWARDS_DOUBLE_ARROW LEFT_RIGHT_DOUBLE_ARROW UP_DOWN_DOUBLE_ARROW
  NORTH_: WEST_DOUBLE_ARROW EAST_DOUBLE_ARROW SOUTH_: EAST_DOUBLE_ARROW WEST_DOUBLE_ARROW :
  LEFTWARDS_TRIPLE_ARROW RIGHTWARDS_TRIPLE_ARROW LEFTWARDS_SQUIGGLE_ARROW RIGHTWARDS_SQUIGGLE_ARROW
  UPWARDS_ARROW_WITH_DOUBLE_STROKE DOWNWARDS_ARROW_WITH_DOUBLE_STROKE LEFTWARDS_DASHED_ARROW
  UPWARDS_DASHED_ARROW RIGHTWARDS_DASHED_ARROW DOWNWARDS_DASHED_ARROW LEFTWARDS_ARROW_TO_BAR
  RIGHTWARDS_ARROW_TO_BAR LEFTWARDS_WHITE_ARROW UPWARDS_WHITE_ARROW RIGHTWARDS_WHITE_ARROW
  DOWNWARDS_WHITE_ARROW UPWARDS_WHITE_ARROW_: FROM_BAR ON_PEDESTAL ON_PEDESTAL_WITH_HORIZONTAL_BAR
  ON_PEDESTAL_WITH_VERTICAL_BAR UPWARDS_WHITE_DOUBLE_: ARROW ARROW_ON_PEDESTAL :
  RIGHTWARDS_WHITE_ARROW_FROM_WALL NORTH_WEST_ARROW_TO_CORNER SOUTH_EAST_ARROW_TO_CORNER
  UP_DOWN_WHITE_ARROW RIGHT_ARROW_WITH_SMALL_CIRCLE DOWNWARDS_ARROW_LEFTWARDS_OF_UPWARDS_ARROW
  THREE_RIGHTWARDS_ARROWS LEFTWARDS_ARROW_WITH_VERTICAL_STROKE
  RIGHTWARDS_ARROW_WITH_VERTICAL_STROKE LEFT_RIGHT_ARROW_WITH_VERTICAL_STROKE
  LEFTWARDS_ARROW_WITH_DOUBLE_VERTICAL_STROKE RIGHTWARDS_ARROW_WITH_DOUBLE_VERTICAL_STROKE
  LEFT_RIGHT_ARROW_WITH_DOUBLE_VERTICAL_STROKE LEFTWARDS_OPEN-HEADED_ARROW
  RIGHTWARDS_OPEN-HEADED_ARROW LEFT_RIGHT_OPEN-HEADED_ARROW FOR_ALL COMPLEMENT PARTIAL_DIFFERENTIAL
  THERE_: EXISTS DOES_NOT_EXIST : EMPTY_SET INCREMENT NABLA ELEMENT_OF NOT_AN_ELEMENT_OF
  SMALL_ELEMENT_OF CONTAINS_AS_MEMBER DOES_NOT_CONTAIN_AS_MEMBER SMALL_CONTAINS_AS_MEMBER
  END_OF_PROOF N-ARY_: PRODUCT COPRODUCT SUMMATION : MINUS_SIGN MINUS-OR-PLUS_SIGN DOT_PLUS
  DIVISION_SLASH SET_MINUS ASTERISK_OPERATOR RING_OPERATOR BULLET_OPERATOR SQUARE_ROOT CUBE_ROOT
  FOURTH_ROOT PROPORTIONAL_TO INFINITY RIGHT_ANGLE ANGLE MEASURED_ANGLE SPHERICAL_ANGLE DIVIDES
  DOES_NOT_DIVIDE PARALLEL_TO NOT_PARALLEL_TO LOGICAL_: AND OR : INTERSECTION UNION INTEGRAL
  DOUBLE_INTEGRAL TRIPLE_INTEGRAL CONTOUR_INTEGRAL SURFACE_INTEGRAL VOLUME_INTEGRAL CLOCKWISE_:
  INTEGRAL CONTOUR_INTEGRAL : ANTICLOCKWISE_CONTOUR_INTEGRAL THEREFORE BECAUSE RATIO PROPORTION
  DOT_MINUS EXCESS GEOMETRIC_PROPORTION HOMOTHETIC TILDE_OPERATOR REVERSED_TILDE INVERTED_LAZY_S
  SINE_WAVE WREATH_PRODUCT NOT_TILDE MINUS_TILDE ASYMPTOTICALLY_EQUAL_TO
  NOT_ASYMPTOTICALLY_EQUAL_TO APPROXIMATELY_: EQUAL_TO BUT_NOT_ACTUALLY_EQUAL_TO :
  NEITHER_APPROXIMATELY_NOR_ACTUALLY_EQUAL_TO ALMOST_EQUAL_TO NOT_ALMOST_EQUAL_TO
  ALMOST_EQUAL_OR_EQUAL_TO TRIPLE_TILDE ALL_EQUAL_TO EQUIVALENT_TO GEOMETRICALLY_EQUIVALENT_TO
  DIFFERENCE_BETWEEN APPROACHES_THE_LIMIT GEOMETRICALLY_EQUAL_TO
  APPROXIMATELY_EQUAL_TO_OR_THE_IMAGE_OF IMAGE_OF_OR_APPROXIMATELY_EQUAL_TO COLON_EQUALS
  EQUALS_COLON RING_: IN_EQUAL_TO EQUAL_TO : CORRESPONDS_TO ESTIMATES EQUIANGULAR_TO STAR_EQUALS
  DELTA_EQUAL_TO EQUAL_TO_BY_DEFINITION MEASURED_BY QUESTIONED_EQUAL_TO NOT_EQUAL_TO IDENTICAL_TO
  NOT_IDENTICAL_TO STRICTLY_EQUIVALENT_TO LESS-THAN_OR_EQUAL_TO GREATER-THAN_OR_EQUAL_TO
  LESS-THAN_OVER_EQUAL_TO GREATER-THAN_OVER_EQUAL_TO LESS-THAN_BUT_NOT_EQUAL_TO
  GREATER-THAN_BUT_NOT_EQUAL_TO MUCH_: LESS-THAN GREATER-THAN : BETWEEN NOT_: EQUIVALENT_TO
  LESS-THAN GREATER-THAN NEITHER_: LESS-THAN_NOR_EQUAL_TO GREATER-THAN_NOR_EQUAL_TO :
  LESS-THAN_OR_EQUIVALENT_TO GREATER-THAN_OR_EQUIVALENT_TO NEITHER_: LESS-THAN_NOR_EQUIVALENT_TO
  GREATER-THAN_NOR_EQUIVALENT_TO : LESS-THAN_OR_GREATER-THAN GREATER-THAN_OR_LESS-THAN NEITHER_:
  LESS-THAN_NOR_GREATER-THAN GREATER-THAN_NOR_LESS-THAN : PRECEDES SUCCEEDS PRECEDES_OR_EQUAL_TO
  SUCCEEDS_OR_EQUAL_TO PRECEDES_OR_EQUIVALENT_TO SUCCEEDS_OR_EQUIVALENT_TO DOES_NOT_: PRECEDE
  SUCCEED : SUBSET_OF SUPERSET_OF NOT_A_: SUBSET_OF SUPERSET_OF : SUBSET_OF_OR_EQUAL_TO
  SUPERSET_OF_OR_EQUAL_TO NEITHER_A_: SUBSET_OF_NOR_EQUAL_TO SUPERSET_OF_NOR_EQUAL_TO :
  SUBSET_OF_WITH_NOT_EQUAL_TO SUPERSET_OF_WITH_NOT_EQUAL_TO MULTISET MULTISET_: MULTIPLICATION
  UNION SQUARE_: IMAGE_OF ORIGINAL_OF IMAGE_OF_OR_EQUAL_TO ORIGINAL_OF_OR_EQUAL_TO CAP CUP
  CIRCLED_: PLUS MINUS TIMES DIVISION_SLASH DOT_OPERATOR RING_OPERATOR ASTERISK_OPERATOR EQUALS
  DASH SQUARED_: PLUS MINUS TIMES DOT_OPERATOR : RIGHT_TACK LEFT_TACK DOWN_TACK UP_TACK ASSERTION
  MODELS TRUE FORCES TRIPLE_VERTICAL_BAR_RIGHT_TURNSTILE DOUBLE_VERTICAL_BAR_DOUBLE_RIGHT_TURNSTILE
  DOES_NOT_PROVE NOT_TRUE DOES_NOT_FORCE NEGATED_DOUBLE_VERTICAL_BAR_DOUBLE_RIGHT_TURNSTILE
  PRECEDES_UNDER_RELATION SUCCEEDS_UNDER_RELATION NORMAL_SUBGROUP_OF CONTAINS_AS_NORMAL_SUBGROUP
  NORMAL_SUBGROUP_OF_OR_EQUAL_TO CONTAINS_AS_NORMAL_SUBGROUP_OR_EQUAL_TO ORIGINAL_OF IMAGE_OF
  MULTIMAP HERMITIAN_CONJUGATE_MATRIX INTERCALATE XOR NAND NOR RIGHT_: ANGLE_WITH_ARC TRIANGLE
  N-ARY_: LOGICAL_AND LOGICAL_OR INTERSECTION UNION : DIAMOND_OPERATOR DOT_OPERATOR STAR_OPERATOR
  DIVISION_TIMES BOWTIE LEFT_NORMAL_FACTOR_SEMIDIRECT_PRODUCT
  RIGHT_NORMAL_FACTOR_SEMIDIRECT_PRODUCT LEFT_SEMIDIRECT_PRODUCT RIGHT_SEMIDIRECT_PRODUCT
  REVERSED_TILDE_EQUALS CURLY_LOGICAL_: OR AND DOUBLE_: SUBSET SUPERSET INTERSECTION UNION :
  PITCHFORK EQUAL_AND_PARALLEL_TO LESS-THAN_WITH_DOT GREATER-THAN_WITH_DOT VERY_MUCH_: LESS-THAN
  GREATER-THAN : LESS-THAN_EQUAL_TO_OR_GREATER-THAN GREATER-THAN_EQUAL_TO_OR_LESS-THAN
  EQUAL_TO_OR_: LESS-THAN GREATER-THAN PRECEDES SUCCEEDS DOES_NOT_: PRECEDE_OR_EQUAL
  SUCCEED_OR_EQUAL NOT_SQUARE_: IMAGE_OF_OR_EQUAL_TO ORIGINAL_OF_OR_EQUAL_TO SQUARE_:
  IMAGE_OF_OR_NOT_EQUAL_TO ORIGINAL_OF_OR_NOT_EQUAL_TO : LESS-THAN_BUT_NOT_EQUIVALENT_TO
  GREATER-THAN_BUT_NOT_EQUIVALENT_TO PRECEDES_BUT_NOT_EQUIVALENT_TO SUCCEEDS_BUT_NOT_EQUIVALENT_TO
  NOT_NORMAL_SUBGROUP_OF DOES_NOT_CONTAIN_AS_NORMAL_SUBGROUP NOT_NORMAL_SUBGROUP_OF_OR_EQUAL_TO
  DOES_NOT_CONTAIN_AS_NORMAL_SUBGROUP_OR_EQUAL VERTICAL_ELLIPSIS MIDLINE_HORIZONTAL_ELLIPSIS
  UP_RIGHT_DIAGONAL_ELLIPSIS DOWN_RIGHT_DIAGONAL_ELLIPSIS ELEMENT_OF_WITH_: LONG_HORIZONTAL_STROKE
  VERTICAL_BAR_AT_END_OF_HORIZONTAL_STROKE
  SMALL_ELEMENT_OF_WITH_VERTICAL_BAR_AT_END_OF_HORIZONTAL_: STROKE ELEMENT_OF_WITH_: DOT_ABOVE
  OVERBAR SMALL_ELEMENT_OF_WITH_: OVERBAR ELEMENT_OF_WITH_: UNDERBAR TWO_HORIZONTAL_STROKES
  CONTAINS_WITH_: LONG_HORIZONTAL_STROKE VERTICAL_BAR_AT_END_OF_HORIZONTAL_STROKE :
  SMALL_CONTAINS_WITH_VERTICAL_BAR_AT_END_OF_HORIZONTAL_STROKE CONTAINS_WITH_OVERBAR
  SMALL_CONTAINS_WITH_OVERBAR Z_NOTATION_BAG_MEMBERSHIP DIAMETER_SIGN ELECTRIC_ARROW HOUSE
  UP_ARROWHEAD DOWN_ARROWHEAD PROJECTIVE PERSPECTIVE WAVY_LINE LEFT_CEILING RIGHT_CEILING
  LEFT_FLOOR RIGHT_FLOOR BOTTOM_: RIGHT_CROP LEFT_CROP TOP_: RIGHT_CROP LEFT_CROP :
  REVERSED_NOT_SIGN SQUARE_LOZENGE ARC SEGMENT SECTOR TELEPHONE_RECORDER POSITION_INDICATOR
  VIEWDATA_SQUARE PLACE_OF_INTEREST_SIGN TURNED_NOT_SIGN WATCH HOURGLASS TOP_: LEFT_CORNER
  RIGHT_CORNER BOTTOM_: LEFT_CORNER RIGHT_CORNER : TOP_HALF_INTEGRAL BOTTOM_HALF_INTEGRAL FROWN
  SMILE UP_ARROWHEAD_BETWEEN_TWO_HORIZONTAL_BARS OPTION_KEY ERASE_TO_THE_RIGHT X_IN_A_RECTANGLE_BOX
  KEYBOARD LEFT-POINTING_ANGLE_BRACKET RIGHT-POINTING_ANGLE_BRACKET ERASE_TO_THE_LEFT BENZENE_RING
  CYLINDRICITY ALL_AROUND-PROFILE SYMMETRY TOTAL_RUNOUT DIMENSION_ORIGIN CONICAL_TAPER SLOPE
  COUNTERBORE COUNTERSINK APL_FUNCTIONAL_SYMBOL_: I-BEAM SQUISH_QUAD QUAD_EQUAL QUAD_DIVIDE
  QUAD_DIAMOND QUAD_JOT QUAD_CIRCLE CIRCLE_STILE CIRCLE_JOT SLASH_BAR BACKSLASH_BAR QUAD_SLASH
  QUAD_BACKSLASH QUAD_LESS-THAN QUAD_GREATER-THAN LEFTWARDS_VANE RIGHTWARDS_VANE
  QUAD_LEFTWARDS_ARROW QUAD_RIGHTWARDS_ARROW CIRCLE_BACKSLASH DOWN_TACK_UNDERBAR DELTA_STILE
  QUAD_DOWN_CARET QUAD_DELTA DOWN_TACK_JOT UPWARDS_VANE QUAD_UPWARDS_ARROW UP_TACK_OVERBAR
  DEL_STILE QUAD_UP_CARET QUAD_DEL UP_TACK_JOT DOWNWARDS_VANE QUAD_DOWNWARDS_ARROW QUOTE_UNDERBAR
  DELTA_UNDERBAR DIAMOND_UNDERBAR JOT_UNDERBAR CIRCLE_UNDERBAR UP_SHOE_JOT QUOTE_QUAD CIRCLE_STAR
  QUAD_COLON UP_TACK_DIAERESIS DEL_DIAERESIS STAR_DIAERESIS JOT_DIAERESIS CIRCLE_DIAERESIS
  DOWN_SHOE_STILE LEFT_SHOE_STILE TILDE_DIAERESIS GREATER-THAN_DIAERESIS COMMA_BAR DEL_TILDE ZILDE
  STILE_TILDE SEMICOLON_UNDERBAR QUAD_NOT_EQUAL QUAD_QUESTION DOWN_CARET_TILDE UP_CARET_TILDE IOTA
  RHO OMEGA ALPHA_UNDERBAR EPSILON_UNDERBAR IOTA_UNDERBAR OMEGA_UNDERBAR ALPHA : NOT_CHECK_MARK
  RIGHT_ANGLE_WITH_DOWNWARDS_ZIGZAG_ARROW SHOULDERED_OPEN_BOX BELL_SYMBOL
  VERTICAL_LINE_WITH_MIDDLE_DOT INSERTION_SYMBOL CONTINUOUS_UNDERLINE_SYMBOL
  DISCONTINUOUS_UNDERLINE_SYMBOL EMPHASIS_SYMBOL COMPOSITION_SYMBOL
  WHITE_SQUARE_WITH_CENTRE_VERTICAL_LINE ENTER_SYMBOL ALTERNATIVE_KEY_SYMBOL HELM_SYMBOL CIRCLED_:
  HORIZONTAL_BAR_WITH_NOTCH TRIANGLE_DOWN : BROKEN_CIRCLE_WITH_NORTHWEST_ARROW UNDO_SYMBOL
  MONOSTABLE_SYMBOL HYSTERESIS_SYMBOL OPEN-CIRCUIT-OUTPUT_: H-TYPE_SYMBOL L-TYPE_SYMBOL
  PASSIVE-PULL-: DOWN-OUTPUT_SYMBOL UP-OUTPUT_SYMBOL : DIRECT_CURRENT_SYMBOL_FORM_TWO
  SOFTWARE-FUNCTION_SYMBOL APL_FUNCTIONAL_SYMBOL_QUAD DECIMAL_SEPARATOR_KEY_SYMBOL PREVIOUS_PAGE
  NEXT_PAGE PRINT_SCREEN_SYMBOL CLEAR_SCREEN_SYMBOL LEFT_PARENTHESIS_: UPPER_HOOK EXTENSION
  LOWER_HOOK RIGHT_PARENTHESIS_: UPPER_HOOK EXTENSION LOWER_HOOK LEFT_SQUARE_BRACKET_: UPPER_CORNER
  EXTENSION LOWER_CORNER RIGHT_SQUARE_BRACKET_: UPPER_CORNER EXTENSION LOWER_CORNER
  LEFT_CURLY_BRACKET_: UPPER_HOOK MIDDLE_PIECE LOWER_HOOK CURLY_BRACKET_: EXTENSION
  RIGHT_CURLY_BRACKET_: UPPER_HOOK MIDDLE_PIECE LOWER_HOOK : INTEGRAL_EXTENSION
  HORIZONTAL_LINE_EXTENSION UPPER_: LEFT_OR_LOWER_RIGHT_CURLY_BRACKET_SECTION
  RIGHT_OR_LOWER_LEFT_CURLY_BRACKET_SECTION SUMMATION_: TOP BOTTOM TOP_SQUARE_: BRACKET
  BOTTOM_SQUARE_: BRACKET BRACKET_OVER_TOP_SQUARE_BRACKET : RADICAL_SYMBOL_BOTTOM
  LEFT_VERTICAL_BOX_LINE RIGHT_VERTICAL_BOX_LINE HORIZONTAL_SCAN_LINE-: 1 3 7 9
  DENTISTRY_SYMBOL_LIGHT_: VERTICAL_AND_TOP_RIGHT VERTICAL_AND_BOTTOM_RIGHT VERTICAL_WITH_CIRCLE
  DOWN_AND_HORIZONTAL_WITH_CIRCLE UP_AND_HORIZONTAL_WITH_CIRCLE VERTICAL_WITH_TRIANGLE
  DOWN_AND_HORIZONTAL_WITH_TRIANGLE UP_AND_HORIZONTAL_WITH_TRIANGLE VERTICAL_AND_WAVE
  DOWN_AND_HORIZONTAL_WITH_WAVE UP_AND_HORIZONTAL_WITH_WAVE DOWN_AND_HORIZONTAL UP_AND_HORIZONTAL
  VERTICAL_AND_TOP_LEFT VERTICAL_AND_BOTTOM_LEFT : SQUARE_FOOT RETURN_SYMBOL EJECT_SYMBOL
  VERTICAL_LINE_EXTENSION METRICAL_: BREVE LONG_OVER_SHORT SHORT_OVER_LONG LONG_OVER_TWO_SHORTS
  TWO_SHORTS_OVER_LONG TWO_SHORTS_JOINED TRISEME TETRASEME PENTASEME : EARTH_GROUND FUSE
  TOP_PARENTHESIS BOTTOM_PARENTHESIS TOP_CURLY_BRACKET BOTTOM_CURLY_BRACKET
  TOP_TORTOISE_SHELL_BRACKET BOTTOM_TORTOISE_SHELL_BRACKET WHITE_TRAPEZIUM BENZENE_RING_WITH_CIRCLE
  STRAIGHTNESS FLATNESS AC_CURRENT ELECTRICAL_INTERSECTION DECIMAL_EXPONENT_SYMBOL BLACK_:
  RIGHT-POINTING_DOUBLE_TRIANGLE LEFT-POINTING_DOUBLE_TRIANGLE UP-POINTING_DOUBLE_TRIANGLE
  DOWN-POINTING_DOUBLE_TRIANGLE RIGHT-POINTING_DOUBLE_TRIANGLE_WITH_VERTICAL_BAR
  LEFT-POINTING_DOUBLE_TRIANGLE_WITH_VERTICAL_BAR RIGHT-POINTING_TRIANGLE_WITH_DOUBLE_VERTICAL_BAR
  : ALARM_CLOCK STOPWATCH TIMER_CLOCK HOURGLASS_WITH_FLOWING_SAND BLACK_MEDIUM_:
  LEFT-POINTING_TRIANGLE RIGHT-POINTING_TRIANGLE UP-POINTING_TRIANGLE DOWN-POINTING_TRIANGLE
  DOUBLE_VERTICAL_: BAR BLACK_: SQUARE_FOR_STOP CIRCLE_FOR_RECORD POWER_: SYMBOL ON-OFF_SYMBOL
  ON_SYMBOL SLEEP_SYMBOL OBSERVER_EYE_: SYMBOL SYMBOL_FOR_: NULL START_OF_HEADING START_OF_TEXT
  END_OF_TEXT END_OF_TRANSMISSION ENQUIRY ACKNOWLEDGE BELL BACKSPACE HORIZONTAL_TABULATION
  LINE_FEED VERTICAL_TABULATION FORM_FEED CARRIAGE_RETURN SHIFT_OUT SHIFT_IN DATA_LINK_ESCAPE
  SYMBOL_FOR_DEVICE_CONTROL_: ONE TWO THREE FOUR SYMBOL_FOR_: NEGATIVE_ACKNOWLEDGE SYNCHRONOUS_IDLE
  END_OF_TRANSMISSION_BLOCK CANCEL END_OF_MEDIUM SUBSTITUTE ESCAPE FILE_SEPARATOR GROUP_SEPARATOR
  RECORD_SEPARATOR UNIT_SEPARATOR SPACE DELETE : BLANK_SYMBOL OPEN_BOX SYMBOL_FOR_: NEWLINE
  DELETE_FORM_TWO SUBSTITUTE_FORM_TWO @2440 OCR_: HOOK CHAIR FORK INVERTED_FORK BELT_BUCKLE BOW_TIE
  BRANCH_BANK_IDENTIFICATION AMOUNT_OF_CHECK DASH CUSTOMER_ACCOUNT_NUMBER DOUBLE_BACKSLASH @2460
  CIRCLED_DIGIT_: ONE TWO THREE FOUR FIVE SIX SEVEN EIGHT NINE CIRCLED_NUMBER_: TEN ELEVEN TWELVE
  THIRTEEN FOURTEEN FIFTEEN SIXTEEN SEVENTEEN EIGHTEEN NINETEEN TWENTY PARENTHESIZED_DIGIT_: ONE
  TWO THREE FOUR FIVE SIX SEVEN EIGHT NINE PARENTHESIZED_NUMBER_: TEN ELEVEN TWELVE THIRTEEN
  FOURTEEN FIFTEEN SIXTEEN SEVENTEEN EIGHTEEN NINETEEN TWENTY DIGIT_: ONE_FULL_STOP TWO_FULL_STOP
  THREE_FULL_STOP FOUR_FULL_STOP FIVE_FULL_STOP SIX_FULL_STOP SEVEN_FULL_STOP EIGHT_FULL_STOP
  NINE_FULL_STOP NUMBER_: TEN_FULL_STOP ELEVEN_FULL_STOP TWELVE_FULL_STOP THIRTEEN_FULL_STOP
  FOURTEEN_FULL_STOP FIFTEEN_FULL_STOP SIXTEEN_FULL_STOP SEVENTEEN_FULL_STOP EIGHTEEN_FULL_STOP
  NINETEEN_FULL_STOP TWENTY_FULL_STOP PARENTHESIZED_LATIN_SMALL_LETTER_: A B C D E F G H I J K L M
  N O P Q R S T U V W X Y Z CIRCLED_LATIN_CAPITAL_LETTER_: A B C D E F G H I J K L M N O P Q R S T
  U V W X Y Z CIRCLED_LATIN_SMALL_LETTER_: A B C D E F G H I J K L M N O P Q R S T U V W X Y Z
  CIRCLED_DIGIT_: ZERO NEGATIVE_CIRCLED_NUMBER_: ELEVEN TWELVE THIRTEEN FOURTEEN FIFTEEN SIXTEEN
  SEVENTEEN EIGHTEEN NINETEEN TWENTY DOUBLE_CIRCLED_DIGIT_: ONE TWO THREE FOUR FIVE SIX SEVEN EIGHT
  NINE : DOUBLE_CIRCLED_NUMBER_TEN NEGATIVE_CIRCLED_DIGIT_ZERO BOX_DRAWINGS_: LIGHT_HORIZONTAL
  HEAVY_HORIZONTAL LIGHT_VERTICAL HEAVY_VERTICAL LIGHT_TRIPLE_DASH_HORIZONTAL
  HEAVY_TRIPLE_DASH_HORIZONTAL LIGHT_TRIPLE_DASH_VERTICAL HEAVY_TRIPLE_DASH_VERTICAL
  LIGHT_QUADRUPLE_DASH_HORIZONTAL HEAVY_QUADRUPLE_DASH_HORIZONTAL LIGHT_QUADRUPLE_DASH_VERTICAL
  HEAVY_QUADRUPLE_DASH_VERTICAL LIGHT_DOWN_AND_RIGHT DOWN_LIGHT_AND_RIGHT_HEAVY
  DOWN_HEAVY_AND_RIGHT_LIGHT HEAVY_DOWN_AND_RIGHT LIGHT_DOWN_AND_LEFT DOWN_LIGHT_AND_LEFT_HEAVY
  DOWN_HEAVY_AND_LEFT_LIGHT HEAVY_DOWN_AND_LEFT LIGHT_UP_AND_RIGHT UP_LIGHT_AND_RIGHT_HEAVY
  UP_HEAVY_AND_RIGHT_LIGHT HEAVY_UP_AND_RIGHT LIGHT_UP_AND_LEFT UP_LIGHT_AND_LEFT_HEAVY
  UP_HEAVY_AND_LEFT_LIGHT HEAVY_UP_AND_LEFT LIGHT_VERTICAL_AND_RIGHT VERTICAL_LIGHT_AND_RIGHT_HEAVY
  UP_HEAVY_AND_RIGHT_DOWN_LIGHT DOWN_HEAVY_AND_RIGHT_UP_LIGHT VERTICAL_HEAVY_AND_RIGHT_LIGHT
  DOWN_LIGHT_AND_RIGHT_UP_HEAVY UP_LIGHT_AND_RIGHT_DOWN_HEAVY HEAVY_VERTICAL_AND_RIGHT
  LIGHT_VERTICAL_AND_LEFT VERTICAL_LIGHT_AND_LEFT_HEAVY UP_HEAVY_AND_LEFT_DOWN_LIGHT
  DOWN_HEAVY_AND_LEFT_UP_LIGHT VERTICAL_HEAVY_AND_LEFT_LIGHT DOWN_LIGHT_AND_LEFT_UP_HEAVY
  UP_LIGHT_AND_LEFT_DOWN_HEAVY HEAVY_VERTICAL_AND_LEFT LIGHT_DOWN_AND_HORIZONTAL
  LEFT_HEAVY_AND_RIGHT_DOWN_LIGHT RIGHT_HEAVY_AND_LEFT_DOWN_LIGHT DOWN_LIGHT_AND_HORIZONTAL_HEAVY
  DOWN_HEAVY_AND_HORIZONTAL_LIGHT RIGHT_LIGHT_AND_LEFT_DOWN_HEAVY LEFT_LIGHT_AND_RIGHT_DOWN_HEAVY
  HEAVY_DOWN_AND_HORIZONTAL LIGHT_UP_AND_HORIZONTAL LEFT_HEAVY_AND_RIGHT_UP_LIGHT
  RIGHT_HEAVY_AND_LEFT_UP_LIGHT UP_LIGHT_AND_HORIZONTAL_HEAVY UP_HEAVY_AND_HORIZONTAL_LIGHT
  RIGHT_LIGHT_AND_LEFT_UP_HEAVY LEFT_LIGHT_AND_RIGHT_UP_HEAVY HEAVY_UP_AND_HORIZONTAL
  LIGHT_VERTICAL_AND_HORIZONTAL LEFT_HEAVY_AND_RIGHT_VERTICAL_LIGHT
  RIGHT_HEAVY_AND_LEFT_VERTICAL_LIGHT VERTICAL_LIGHT_AND_HORIZONTAL_HEAVY
  UP_HEAVY_AND_DOWN_HORIZONTAL_LIGHT DOWN_HEAVY_AND_UP_HORIZONTAL_LIGHT
  VERTICAL_HEAVY_AND_HORIZONTAL_LIGHT LEFT_UP_HEAVY_AND_RIGHT_DOWN_LIGHT
  RIGHT_UP_HEAVY_AND_LEFT_DOWN_LIGHT LEFT_DOWN_HEAVY_AND_RIGHT_UP_LIGHT
  RIGHT_DOWN_HEAVY_AND_LEFT_UP_LIGHT DOWN_LIGHT_AND_UP_HORIZONTAL_HEAVY
  UP_LIGHT_AND_DOWN_HORIZONTAL_HEAVY RIGHT_LIGHT_AND_LEFT_VERTICAL_HEAVY
  LEFT_LIGHT_AND_RIGHT_VERTICAL_HEAVY HEAVY_VERTICAL_AND_HORIZONTAL LIGHT_DOUBLE_DASH_HORIZONTAL
  HEAVY_DOUBLE_DASH_HORIZONTAL LIGHT_DOUBLE_DASH_VERTICAL HEAVY_DOUBLE_DASH_VERTICAL
  DOUBLE_HORIZONTAL DOUBLE_VERTICAL DOWN_SINGLE_AND_RIGHT_DOUBLE DOWN_DOUBLE_AND_RIGHT_SINGLE
  DOUBLE_DOWN_AND_RIGHT DOWN_SINGLE_AND_LEFT_DOUBLE DOWN_DOUBLE_AND_LEFT_SINGLE
  DOUBLE_DOWN_AND_LEFT UP_SINGLE_AND_RIGHT_DOUBLE UP_DOUBLE_AND_RIGHT_SINGLE DOUBLE_UP_AND_RIGHT
  UP_SINGLE_AND_LEFT_DOUBLE UP_DOUBLE_AND_LEFT_SINGLE DOUBLE_UP_AND_LEFT
  VERTICAL_SINGLE_AND_RIGHT_DOUBLE VERTICAL_DOUBLE_AND_RIGHT_SINGLE DOUBLE_VERTICAL_AND_RIGHT
  VERTICAL_SINGLE_AND_LEFT_DOUBLE VERTICAL_DOUBLE_AND_LEFT_SINGLE DOUBLE_VERTICAL_AND_LEFT
  DOWN_SINGLE_AND_HORIZONTAL_DOUBLE DOWN_DOUBLE_AND_HORIZONTAL_SINGLE DOUBLE_DOWN_AND_HORIZONTAL
  UP_SINGLE_AND_HORIZONTAL_DOUBLE UP_DOUBLE_AND_HORIZONTAL_SINGLE DOUBLE_UP_AND_HORIZONTAL
  VERTICAL_SINGLE_AND_HORIZONTAL_DOUBLE VERTICAL_DOUBLE_AND_HORIZONTAL_SINGLE
  DOUBLE_VERTICAL_AND_HORIZONTAL BOX_DRAWINGS_LIGHT_: ARC_DOWN_AND_RIGHT ARC_DOWN_AND_LEFT
  ARC_UP_AND_LEFT ARC_UP_AND_RIGHT DIAGONAL_UPPER_RIGHT_TO_LOWER_LEFT
  DIAGONAL_UPPER_LEFT_TO_LOWER_RIGHT DIAGONAL_CROSS LEFT UP RIGHT DOWN BOX_DRAWINGS_HEAVY_: LEFT UP
  RIGHT DOWN BOX_DRAWINGS_: LIGHT_LEFT_AND_HEAVY_RIGHT LIGHT_UP_AND_HEAVY_DOWN
  HEAVY_LEFT_AND_LIGHT_RIGHT HEAVY_UP_AND_LIGHT_DOWN UPPER_HALF_: BLOCK LOWER_: ONE_EIGHTH_BLOCK
  ONE_QUARTER_BLOCK THREE_EIGHTHS_BLOCK HALF_BLOCK FIVE_EIGHTHS_BLOCK THREE_QUARTERS_BLOCK
  SEVEN_EIGHTHS_BLOCK FULL_: BLOCK LEFT_: SEVEN_EIGHTHS_BLOCK THREE_QUARTERS_BLOCK
  FIVE_EIGHTHS_BLOCK HALF_BLOCK THREE_EIGHTHS_BLOCK ONE_QUARTER_BLOCK ONE_EIGHTH_BLOCK :
  RIGHT_HALF_BLOCK LIGHT_SHADE MEDIUM_SHADE DARK_SHADE UPPER_ONE_EIGHTH_BLOCK
  RIGHT_ONE_EIGHTH_BLOCK QUADRANT_LOWER_: LEFT RIGHT QUADRANT_UPPER_: LEFT
  LEFT_AND_LOWER_LEFT_AND_LOWER_RIGHT LEFT_AND_LOWER_RIGHT LEFT_AND_UPPER_RIGHT_AND_LOWER_LEFT
  LEFT_AND_UPPER_RIGHT_AND_LOWER_RIGHT RIGHT RIGHT_AND_LOWER_LEFT
  RIGHT_AND_LOWER_LEFT_AND_LOWER_RIGHT : BLACK_SQUARE WHITE_SQUARE WHITE_SQUARE_:
  WITH_ROUNDED_CORNERS CONTAINING_BLACK_SMALL_SQUARE SQUARE_WITH_: HORIZONTAL_FILL VERTICAL_FILL
  ORTHOGONAL_CROSSHATCH_FILL UPPER_LEFT_TO_LOWER_RIGHT_FILL UPPER_RIGHT_TO_LOWER_LEFT_FILL
  DIAGONAL_CROSSHATCH_FILL : BLACK_SMALL_SQUARE WHITE_SMALL_SQUARE BLACK_RECTANGLE WHITE_RECTANGLE
  BLACK_VERTICAL_RECTANGLE WHITE_VERTICAL_RECTANGLE BLACK_PARALLELOGRAM WHITE_PARALLELOGRAM
  BLACK_UP-POINTING_TRIANGLE WHITE_UP-POINTING_TRIANGLE BLACK_UP-POINTING_SMALL_TRIANGLE
  WHITE_UP-POINTING_SMALL_TRIANGLE BLACK_RIGHT-POINTING_TRIANGLE WHITE_RIGHT-POINTING_TRIANGLE
  BLACK_RIGHT-POINTING_SMALL_TRIANGLE WHITE_RIGHT-POINTING_SMALL_TRIANGLE
  BLACK_RIGHT-POINTING_POINTER WHITE_RIGHT-POINTING_POINTER BLACK_DOWN-POINTING_TRIANGLE
  WHITE_DOWN-POINTING_TRIANGLE BLACK_DOWN-POINTING_SMALL_TRIANGLE
  WHITE_DOWN-POINTING_SMALL_TRIANGLE BLACK_LEFT-POINTING_TRIANGLE WHITE_LEFT-POINTING_TRIANGLE
  BLACK_LEFT-POINTING_SMALL_TRIANGLE WHITE_LEFT-POINTING_SMALL_TRIANGLE BLACK_LEFT-POINTING_POINTER
  WHITE_LEFT-POINTING_POINTER BLACK_DIAMOND WHITE_: DIAMOND DIAMOND_CONTAINING_BLACK_SMALL_DIAMOND
  : FISHEYE LOZENGE WHITE_CIRCLE DOTTED_CIRCLE CIRCLE_WITH_VERTICAL_FILL BULLSEYE BLACK_CIRCLE
  CIRCLE_WITH_: LEFT_HALF_BLACK RIGHT_HALF_BLACK LOWER_HALF_BLACK UPPER_HALF_BLACK
  UPPER_RIGHT_QUADRANT_BLACK ALL_BUT_UPPER_LEFT_QUADRANT_BLACK : LEFT_HALF_BLACK_CIRCLE
  RIGHT_HALF_BLACK_CIRCLE INVERSE_: BULLET WHITE_CIRCLE : UPPER_HALF_INVERSE_WHITE_CIRCLE
  LOWER_HALF_INVERSE_WHITE_CIRCLE UPPER_: LEFT_QUADRANT_CIRCULAR_ARC RIGHT_QUADRANT_CIRCULAR_ARC
  LOWER_: RIGHT_QUADRANT_CIRCULAR_ARC LEFT_QUADRANT_CIRCULAR_ARC : UPPER_HALF_CIRCLE
  LOWER_HALF_CIRCLE BLACK_LOWER_: RIGHT_TRIANGLE LEFT_TRIANGLE BLACK_UPPER_: LEFT_TRIANGLE
  RIGHT_TRIANGLE WHITE_: BULLET SQUARE_WITH_: LEFT_HALF_BLACK RIGHT_HALF_BLACK
  UPPER_LEFT_DIAGONAL_HALF_BLACK LOWER_RIGHT_DIAGONAL_HALF_BLACK WHITE_:
  SQUARE_WITH_VERTICAL_BISECTING_LINE UP-POINTING_TRIANGLE_WITH_DOT UP-POINTING_TRIANGLE_WITH_:
  LEFT_HALF_BLACK RIGHT_HALF_BLACK LARGE_: CIRCLE WHITE_SQUARE_WITH_: UPPER_LEFT_QUADRANT
  LOWER_LEFT_QUADRANT LOWER_RIGHT_QUADRANT UPPER_RIGHT_QUADRANT WHITE_CIRCLE_WITH_:
  UPPER_LEFT_QUADRANT LOWER_LEFT_QUADRANT LOWER_RIGHT_QUADRANT UPPER_RIGHT_QUADRANT UPPER_:
  LEFT_TRIANGLE RIGHT_TRIANGLE : LOWER_LEFT_TRIANGLE WHITE_MEDIUM_SQUARE BLACK_MEDIUM_SQUARE
  WHITE_MEDIUM_SMALL_SQUARE BLACK_MEDIUM_SMALL_SQUARE LOWER_RIGHT_TRIANGLE BLACK_SUN_WITH_RAYS
  CLOUD UMBRELLA SNOWMAN COMET BLACK_STAR WHITE_STAR LIGHTNING THUNDERSTORM SUN ASCENDING_NODE
  DESCENDING_NODE CONJUNCTION OPPOSITION BLACK_TELEPHONE WHITE_TELEPHONE BALLOT_BOX
  BALLOT_BOX_WITH_: CHECK X : SALTIRE UMBRELLA_WITH_RAIN_DROPS HOT_BEVERAGE WHITE_SHOGI_PIECE
  BLACK_SHOGI_PIECE SHAMROCK REVERSED_ROTATED_FLORAL_HEART_BULLET BLACK_: LEFT_POINTING_INDEX
  RIGHT_POINTING_INDEX WHITE_: LEFT_POINTING_INDEX UP_POINTING_INDEX RIGHT_POINTING_INDEX
  DOWN_POINTING_INDEX : SKULL_AND_CROSSBONES CAUTION_SIGN RADIOACTIVE_SIGN BIOHAZARD_SIGN CADUCEUS
  ANKH ORTHODOX_CROSS CHI_RHO CROSS_OF_: LORRAINE JERUSALEM : STAR_AND_CRESCENT FARSI_SYMBOL
  ADI_SHAKTI HAMMER_AND_SICKLE PEACE_SYMBOL YIN_YANG TRIGRAM_FOR_: HEAVEN LAKE FIRE THUNDER WIND
  WATER MOUNTAIN EARTH WHEEL_OF_: DHARMA WHITE_: FROWNING_FACE SMILING_FACE : BLACK_SMILING_FACE
  WHITE_SUN_WITH_RAYS FIRST_QUARTER_MOON LAST_QUARTER_MOON MERCURY FEMALE_SIGN EARTH MALE_SIGN
  JUPITER SATURN URANUS NEPTUNE PLUTO ARIES TAURUS GEMINI CANCER LEO VIRGO LIBRA SCORPIUS
  SAGITTARIUS CAPRICORN AQUARIUS PISCES WHITE_CHESS_: KING QUEEN ROOK BISHOP KNIGHT PAWN
  BLACK_CHESS_: KING QUEEN ROOK BISHOP KNIGHT PAWN BLACK_SPADE_: SUIT WHITE_: HEART_SUIT
  DIAMOND_SUIT : BLACK_CLUB_SUIT WHITE_SPADE_SUIT BLACK_: HEART_SUIT DIAMOND_SUIT : WHITE_CLUB_SUIT
  HOT_SPRINGS QUARTER_NOTE EIGHTH_NOTE BEAMED_: EIGHTH_NOTES SIXTEENTH_NOTES MUSIC_: FLAT_SIGN
  NATURAL_SIGN SHARP_SIGN : WEST_SYRIAC_CROSS EAST_SYRIAC_CROSS UNIVERSAL_RECYCLING_SYMBOL
  RECYCLING_SYMBOL_FOR_TYPE-: 1_PLASTICS 2_PLASTICS 3_PLASTICS 4_PLASTICS 5_PLASTICS 6_PLASTICS
  7_PLASTICS : RECYCLING_SYMBOL_FOR_GENERIC_MATERIALS BLACK_UNIVERSAL_RECYCLING_SYMBOL
  RECYCLED_PAPER_SYMBOL PARTIALLY-RECYCLED_PAPER_SYMBOL PERMANENT_PAPER_SIGN WHEELCHAIR_SYMBOL
  DIE_FACE-: 1 2 3 4 5 6 WHITE_CIRCLE_WITH_: DOT_RIGHT TWO_DOTS BLACK_CIRCLE_WITH_: WHITE_DOT_RIGHT
  TWO_WHITE_DOTS MONOGRAM_FOR_: YANG YIN DIGRAM_FOR_: GREATER_YANG LESSER_YIN LESSER_YANG
  GREATER_YIN : WHITE_FLAG BLACK_FLAG HAMMER_AND_PICK ANCHOR CROSSED_SWORDS STAFF_OF_AESCULAPIUS
  SCALES ALEMBIC FLOWER GEAR STAFF_OF_HERMES ATOM_SYMBOL FLEUR-DE-LIS OUTLINED_WHITE_STAR
  THREE_LINES_CONVERGING_: RIGHT LEFT : WARNING_SIGN HIGH_VOLTAGE_SIGN DOUBLED_: FEMALE_SIGN
  MALE_SIGN : INTERLOCKED_FEMALE_AND_MALE_SIGN MALE_AND_FEMALE_SIGN MALE_WITH_STROKE_: SIGN
  AND_MALE_AND_FEMALE_SIGN : VERTICAL_MALE_WITH_STROKE_SIGN HORIZONTAL_MALE_WITH_STROKE_SIGN
  MEDIUM_: WHITE_CIRCLE BLACK_CIRCLE SMALL_WHITE_CIRCLE : MARRIAGE_SYMBOL DIVORCE_SYMBOL
  UNMARRIED_PARTNERSHIP_SYMBOL COFFIN FUNERAL_URN NEUTER CERES PALLAS JUNO VESTA CHIRON
  BLACK_MOON_LILITH SEXTILE SEMISEXTILE QUINCUNX SESQUIQUADRATE SOCCER_BALL BASEBALL SQUARED_KEY
  WHITE_DRAUGHTS_: MAN KING BLACK_DRAUGHTS_: MAN KING : SNOWMAN_WITHOUT_SNOW SUN_BEHIND_CLOUD RAIN
  BLACK_SNOWMAN THUNDER_CLOUD_AND_RAIN TURNED_: WHITE_SHOGI_PIECE BLACK_SHOGI_PIECE :
  WHITE_DIAMOND_IN_SQUARE CROSSING_LANES DISABLED_CAR OPHIUCHUS PICK CAR_SLIDING
  HELMET_WITH_WHITE_CROSS CIRCLED_CROSSING_LANES CHAINS NO_ENTRY ALTERNATE_ONE-WAY_LEFT_WAY_TRAFFIC
  BLACK_TWO-WAY_LEFT_WAY_TRAFFIC WHITE_TWO-WAY_LEFT_WAY_TRAFFIC BLACK_LEFT_LANE_MERGE
  WHITE_LEFT_LANE_MERGE DRIVE_SLOW_SIGN HEAVY_WHITE_DOWN-POINTING_TRIANGLE LEFT_CLOSED_ENTRY
  SQUARED_SALTIRE FALLING_DIAGONAL_IN_WHITE_CIRCLE_IN_BLACK_SQUARE BLACK_TRUCK
  RESTRICTED_LEFT_ENTRY-: 1 2 : ASTRONOMICAL_SYMBOL_FOR_URANUS
  HEAVY_CIRCLE_WITH_STROKE_AND_TWO_DOTS_ABOVE PENTAGRAM RIGHT-HANDED_INTERLACED_PENTAGRAM
  LEFT-HANDED_INTERLACED_PENTAGRAM INVERTED_PENTAGRAM BLACK_CROSS_ON_SHIELD SHINTO_SHRINE CHURCH
  CASTLE HISTORIC_SITE GEAR_: WITHOUT_HUB WITH_HANDLES : MAP_SYMBOL_FOR_LIGHTHOUSE MOUNTAIN
  UMBRELLA_ON_GROUND FOUNTAIN FLAG_IN_HOLE FERRY SAILBOAT SQUARE_FOUR_CORNERS SKIER ICE_SKATE
  PERSON_WITH_BALL TENT JAPANESE_BANK_SYMBOL HEADSTONE_GRAVEYARD_SYMBOL FUEL_PUMP
  CUP_ON_BLACK_SQUARE WHITE_FLAG_WITH_HORIZONTAL_MIDDLE_BLACK_STRIPE BLACK_SAFETY_SCISSORS
  UPPER_BLADE_SCISSORS BLACK_SCISSORS LOWER_BLADE_SCISSORS WHITE_: SCISSORS HEAVY_CHECK_MARK :
  TELEPHONE_LOCATION_SIGN TAPE_DRIVE AIRPLANE ENVELOPE RAISED_: FIST HAND : VICTORY_HAND
  WRITING_HAND LOWER_RIGHT_PENCIL PENCIL UPPER_RIGHT_PENCIL WHITE_NIB BLACK_NIB CHECK_MARK
  HEAVY_CHECK_MARK MULTIPLICATION_X HEAVY_MULTIPLICATION_X BALLOT_X HEAVY_BALLOT_X
  OUTLINED_GREEK_CROSS HEAVY_GREEK_CROSS OPEN_CENTRE_CROSS HEAVY_OPEN_CENTRE_CROSS LATIN_CROSS
  SHADOWED_WHITE_LATIN_CROSS OUTLINED_LATIN_CROSS MALTESE_CROSS STAR_OF_DAVID FOUR_:
  TEARDROP-SPOKED_ASTERISK BALLOON-SPOKED_ASTERISK : HEAVY_FOUR_BALLOON-SPOKED_ASTERISK
  FOUR_CLUB-SPOKED_ASTERISK BLACK_FOUR_POINTED_STAR WHITE_FOUR_POINTED_STAR SPARKLES
  STRESS_OUTLINED_WHITE_STAR CIRCLED_WHITE_STAR OPEN_CENTRE_BLACK_STAR BLACK_CENTRE_WHITE_STAR
  OUTLINED_BLACK_STAR HEAVY_OUTLINED_BLACK_STAR PINWHEEL_STAR SHADOWED_WHITE_STAR HEAVY_ASTERISK
  OPEN_CENTRE_ASTERISK EIGHT_SPOKED_ASTERISK EIGHT_POINTED_: BLACK_STAR PINWHEEL_STAR :
  SIX_POINTED_BLACK_STAR EIGHT_POINTED_RECTILINEAR_BLACK_STAR
  HEAVY_EIGHT_POINTED_RECTILINEAR_BLACK_STAR TWELVE_POINTED_BLACK_STAR SIXTEEN_POINTED_ASTERISK
  TEARDROP-SPOKED_ASTERISK OPEN_CENTRE_TEARDROP-SPOKED_ASTERISK HEAVY_TEARDROP-SPOKED_ASTERISK
  SIX_PETALLED_BLACK_AND_WHITE_FLORETTE BLACK_FLORETTE WHITE_FLORETTE
  EIGHT_PETALLED_OUTLINED_BLACK_FLORETTE CIRCLED_OPEN_CENTRE_EIGHT_POINTED_STAR
  HEAVY_TEARDROP-SPOKED_PINWHEEL_ASTERISK SNOWFLAKE TIGHT_TRIFOLIATE_SNOWFLAKE
  HEAVY_CHEVRON_SNOWFLAKE SPARKLE HEAVY_SPARKLE BALLOON-SPOKED_ASTERISK
  EIGHT_TEARDROP-SPOKED_PROPELLER_ASTERISK HEAVY_EIGHT_TEARDROP-SPOKED_PROPELLER_ASTERISK
  CROSS_MARK SHADOWED_WHITE_CIRCLE NEGATIVE_SQUARED_CROSS_MARK
  LOWER_RIGHT_DROP-SHADOWED_WHITE_SQUARE UPPER_RIGHT_DROP-SHADOWED_WHITE_SQUARE
  LOWER_RIGHT_SHADOWED_WHITE_SQUARE UPPER_RIGHT_SHADOWED_WHITE_SQUARE BLACK_QUESTION_MARK_ORNAMENT
  WHITE_: QUESTION_MARK_ORNAMENT EXCLAMATION_MARK_ORNAMENT : BLACK_DIAMOND_MINUS_WHITE_X
  HEAVY_EXCLAMATION_MARK_SYMBOL LIGHT_VERTICAL_BAR MEDIUM_VERTICAL_BAR HEAVY_: VERTICAL_BAR
  SINGLE_TURNED_COMMA_QUOTATION_MARK_ORNAMENT SINGLE_COMMA_QUOTATION_MARK_ORNAMENT
  DOUBLE_TURNED_COMMA_QUOTATION_MARK_ORNAMENT DOUBLE_COMMA_QUOTATION_MARK_ORNAMENT
  LOW_SINGLE_COMMA_QUOTATION_MARK_ORNAMENT LOW_DOUBLE_COMMA_QUOTATION_MARK_ORNAMENT
  CURVED_STEM_PARAGRAPH_SIGN_: ORNAMENT HEAVY_: EXCLAMATION_MARK_ORNAMENT
  HEART_EXCLAMATION_MARK_ORNAMENT BLACK_HEART : ROTATED_HEAVY_BLACK_HEART_BULLET FLORAL_HEART
  ROTATED_FLORAL_HEART_BULLET MEDIUM_: LEFT_PARENTHESIS_ORNAMENT RIGHT_PARENTHESIS_ORNAMENT
  FLATTENED_LEFT_PARENTHESIS_ORNAMENT FLATTENED_RIGHT_PARENTHESIS_ORNAMENT
  LEFT-POINTING_ANGLE_BRACKET_ORNAMENT RIGHT-POINTING_ANGLE_BRACKET_ORNAMENT HEAVY_:
  LEFT-POINTING_ANGLE_QUOTATION_MARK_ORNAMENT RIGHT-POINTING_ANGLE_QUOTATION_MARK_ORNAMENT
  LEFT-POINTING_ANGLE_BRACKET_ORNAMENT RIGHT-POINTING_ANGLE_BRACKET_ORNAMENT LIGHT_:
  LEFT_TORTOISE_SHELL_BRACKET_ORNAMENT RIGHT_TORTOISE_SHELL_BRACKET_ORNAMENT MEDIUM_:
  LEFT_CURLY_BRACKET_ORNAMENT RIGHT_CURLY_BRACKET_ORNAMENT DINGBAT_NEGATIVE_CIRCLED_DIGIT_: ONE TWO
  THREE FOUR FIVE SIX SEVEN EIGHT NINE DINGBAT_NEGATIVE_CIRCLED_NUMBER_: TEN
  DINGBAT_CIRCLED_SANS-SERIF_DIGIT_: ONE TWO THREE FOUR FIVE SIX SEVEN EIGHT NINE
  DINGBAT_CIRCLED_SANS-SERIF_NUMBER_: TEN DINGBAT_NEGATIVE_CIRCLED_SANS-SERIF_DIGIT_: ONE TWO THREE
  FOUR FIVE SIX SEVEN EIGHT NINE DINGBAT_NEGATIVE_CIRCLED_SANS-SERIF_NUMBER_: TEN HEAVY_:
  WIDE-HEADED_RIGHTWARDS_ARROW PLUS_SIGN MINUS_SIGN DIVISION_SIGN SOUTH_EAST_ARROW RIGHTWARDS_ARROW
  NORTH_EAST_ARROW : DRAFTING_POINT_RIGHTWARDS_ARROW HEAVY_ROUND-TIPPED_RIGHTWARDS_ARROW
  TRIANGLE-HEADED_RIGHTWARDS_ARROW HEAVY_TRIANGLE-HEADED_RIGHTWARDS_ARROW
  DASHED_TRIANGLE-HEADED_RIGHTWARDS_ARROW HEAVY_DASHED_TRIANGLE-HEADED_RIGHTWARDS_ARROW
  BLACK_RIGHTWARDS_ARROW THREE-D_: TOP-LIGHTED_RIGHTWARDS_ARROWHEAD
  BOTTOM-LIGHTED_RIGHTWARDS_ARROWHEAD BLACK_RIGHTWARDS_: ARROWHEAD HEAVY_BLACK_CURVED_:
  DOWNWARDS_AND_RIGHTWARDS_ARROW UPWARDS_AND_RIGHTWARDS_ARROW : SQUAT_BLACK_RIGHTWARDS_ARROW
  HEAVY_CONCAVE-POINTED_BLACK_RIGHTWARDS_ARROW RIGHT-SHADED_WHITE_RIGHTWARDS_ARROW
  LEFT-SHADED_WHITE_RIGHTWARDS_ARROW BACK-TILTED_SHADOWED_WHITE_RIGHTWARDS_ARROW
  FRONT-TILTED_SHADOWED_WHITE_RIGHTWARDS_ARROW HEAVY_: LOWER_RIGHT-SHADOWED_WHITE_RIGHTWARDS_ARROW
  UPPER_RIGHT-SHADOWED_WHITE_RIGHTWARDS_ARROW : NOTCHED_LOWER_RIGHT-SHADOWED_WHITE_RIGHTWARDS_ARROW
  CURLY_LOOP NOTCHED_UPPER_RIGHT-SHADOWED_WHITE_RIGHTWARDS_ARROW
  CIRCLED_HEAVY_WHITE_RIGHTWARDS_ARROW WHITE-FEATHERED_RIGHTWARDS_ARROW BLACK-FEATHERED_:
  SOUTH_EAST_ARROW RIGHTWARDS_ARROW NORTH_EAST_ARROW HEAVY_BLACK-FEATHERED_: SOUTH_EAST_ARROW
  RIGHTWARDS_ARROW NORTH_EAST_ARROW : TEARDROP-BARBED_RIGHTWARDS_ARROW
  HEAVY_TEARDROP-SHANKED_RIGHTWARDS_ARROW WEDGE-TAILED_RIGHTWARDS_ARROW
  HEAVY_WEDGE-TAILED_RIGHTWARDS_ARROW OPEN-OUTLINED_RIGHTWARDS_ARROW DOUBLE_CURLY_LOOP
  THREE_DIMENSIONAL_ANGLE WHITE_TRIANGLE_CONTAINING_SMALL_WHITE_TRIANGLE PERPENDICULAR OPEN_:
  SUBSET SUPERSET : LEFT_S-SHAPED_BAG_DELIMITER RIGHT_S-SHAPED_BAG_DELIMITER OR_WITH_DOT_INSIDE
  REVERSE_SOLIDUS_PRECEDING_SUBSET SUPERSET_PRECEDING_SOLIDUS VERTICAL_BAR_WITH_HORIZONTAL_STROKE
  MATHEMATICAL_RISING_DIAGONAL LONG_DIVISION MATHEMATICAL_FALLING_DIAGONAL SQUARED_LOGICAL_: AND OR
  : WHITE_DIAMOND_WITH_CENTRED_DOT AND_WITH_DOT ELEMENT_OF_OPENING_UPWARDS
  LOWER_RIGHT_CORNER_WITH_DOT UPPER_LEFT_CORNER_WITH_DOT LEFT_OUTER_JOIN RIGHT_OUTER_JOIN
  FULL_OUTER_JOIN LARGE_: UP_TACK DOWN_TACK LEFT_AND_RIGHT_: DOUBLE_TURNSTILE TACK LEFT_: MULTIMAP
  LONG_: RIGHT_TACK LEFT_TACK : UP_TACK_WITH_CIRCLE_ABOVE LOZENGE_DIVIDED_BY_HORIZONTAL_RULE
  WHITE_CONCAVE-SIDED_: DIAMOND DIAMOND_WITH_LEFTWARDS_TICK DIAMOND_WITH_RIGHTWARDS_TICK
  WHITE_SQUARE_WITH_: LEFTWARDS_TICK RIGHTWARDS_TICK MATHEMATICAL_: LEFT_WHITE_SQUARE_BRACKET
  RIGHT_WHITE_SQUARE_BRACKET LEFT_ANGLE_BRACKET RIGHT_ANGLE_BRACKET LEFT_DOUBLE_ANGLE_BRACKET
  RIGHT_DOUBLE_ANGLE_BRACKET LEFT_WHITE_TORTOISE_SHELL_BRACKET RIGHT_WHITE_TORTOISE_SHELL_BRACKET
  LEFT_FLATTENED_PARENTHESIS RIGHT_FLATTENED_PARENTHESIS : UPWARDS_QUADRUPLE_ARROW
  DOWNWARDS_QUADRUPLE_ARROW ANTICLOCKWISE_GAPPED_CIRCLE_ARROW CLOCKWISE_GAPPED_CIRCLE_ARROW
  RIGHT_ARROW_WITH_CIRCLED_PLUS LONG_: LEFTWARDS_ARROW RIGHTWARDS_ARROW LEFT_RIGHT_ARROW
  LEFTWARDS_DOUBLE_ARROW RIGHTWARDS_DOUBLE_ARROW LEFT_RIGHT_DOUBLE_ARROW LEFTWARDS_ARROW_FROM_BAR
  RIGHTWARDS_ARROW_FROM_BAR LEFTWARDS_DOUBLE_ARROW_FROM_BAR LONG_RIGHTWARDS_: DOUBLE_ARROW_FROM_BAR
  SQUIGGLE_ARROW BRAILLE_PATTERN_: BLANK BRAILLE_PATTERN_DOTS-: 1 2 12 3 13 23 123 4 14 24 124 34
  134 234 1234 5 15 25 125 35 135 235 1235 45 145 245 1245 345 1345 2345 12345 6 16 26 126 36 136
  236 1236 46 146 246 1246 346 1346 2346 12346 56 156 256 1256 356 1356 2356 12356 456 1456 2456
  12456 3456 13456 23456 123456 7 17 27 127 37 137 237 1237 47 147 247 1247 347 1347 2347 12347 57
  157 257 1257 357 1357 2357 12357 457 1457 2457 12457 3457 13457 23457 123457 67 167 267 1267 367
  1367 2367 12367 467 1467 2467 12467 3467 13467 23467 123467 567 1567 2567 12567 3567 13567 23567
  123567 4567 14567 24567 124567 34567 134567 234567 1234567 8 18 28 128 38 138 238 1238 48 148 248
  1248 348 1348 2348 12348 58 158 258 1258 358 1358 2358 12358 458 1458 2458 12458 3458 13458 23458
  123458 68 168 268 1268 368 1368 2368 12368 468 1468 2468 12468 3468 13468 23468 123468 568 1568
  2568 12568 3568 13568 23568 123568 4568 14568 24568 124568 34568 134568 234568 1234568 78 178 278
  1278 378 1378 2378 12378 478 1478 2478 12478 3478 13478 23478 123478 578 1578 2578 12578 3578
  13578 23578 123578 4578 14578 24578 124578 34578 134578 234578 1234578 678 1678 2678 12678 3678
  13678 23678 123678 4678 14678 24678 124678 34678 134678 234678 1234678 5678 15678 25678 125678
  35678 135678 235678 1235678 45678 145678 245678 1245678 345678 1345678 2345678 12345678
  RIGHTWARDS_TWO-HEADED_ARROW_WITH_: VERTICAL_STROKE DOUBLE_VERTICAL_STROKE :
  LEFTWARDS_DOUBLE_ARROW_WITH_VERTICAL_STROKE RIGHTWARDS_DOUBLE_ARROW_WITH_VERTICAL_STROKE
  LEFT_RIGHT_DOUBLE_ARROW_WITH_VERTICAL_STROKE RIGHTWARDS_TWO-HEADED_ARROW_FROM_BAR
  LEFTWARDS_DOUBLE_ARROW_FROM_BAR RIGHTWARDS_DOUBLE_ARROW_FROM_BAR
  DOWNWARDS_ARROW_WITH_HORIZONTAL_STROKE UPWARDS_: ARROW_WITH_HORIZONTAL_STROKE TRIPLE_ARROW :
  DOWNWARDS_TRIPLE_ARROW LEFTWARDS_DOUBLE_DASH_ARROW RIGHTWARDS_DOUBLE_DASH_ARROW
  LEFTWARDS_TRIPLE_DASH_ARROW RIGHTWARDS_: TRIPLE_DASH_ARROW TWO-HEADED_TRIPLE_DASH_ARROW
  ARROW_WITH_DOTTED_STEM : UPWARDS_ARROW_TO_BAR DOWNWARDS_ARROW_TO_BAR
  RIGHTWARDS_ARROW_WITH_TAIL_WITH_: VERTICAL_STROKE DOUBLE_VERTICAL_STROKE
  RIGHTWARDS_TWO-HEADED_ARROW_WITH_: TAIL TAIL_WITH_VERTICAL_STROKE
  TAIL_WITH_DOUBLE_VERTICAL_STROKE : LEFTWARDS_ARROW-TAIL RIGHTWARDS_ARROW-TAIL
  LEFTWARDS_DOUBLE_ARROW-TAIL RIGHTWARDS_DOUBLE_ARROW-TAIL LEFTWARDS_ARROW_TO_BLACK_DIAMOND
  RIGHTWARDS_ARROW_TO_BLACK_DIAMOND LEFTWARDS_ARROW_FROM_BAR_TO_BLACK_DIAMOND
  RIGHTWARDS_ARROW_FROM_BAR_TO_BLACK_DIAMOND NORTH_: WEST_AND_SOUTH_EAST_ARROW
  EAST_AND_SOUTH_WEST_ARROW WEST_ARROW_WITH_HOOK EAST_ARROW_WITH_HOOK SOUTH_: EAST_ARROW_WITH_HOOK
  WEST_ARROW_WITH_HOOK NORTH_: WEST_ARROW_AND_NORTH_EAST_ARROW EAST_ARROW_AND_SOUTH_EAST_ARROW
  SOUTH_: EAST_ARROW_AND_SOUTH_WEST_ARROW WEST_ARROW_AND_NORTH_WEST_ARROW :
  RISING_DIAGONAL_CROSSING_FALLING_DIAGONAL FALLING_DIAGONAL_CROSSING_RISING_DIAGONAL
  SOUTH_EAST_ARROW_CROSSING_NORTH_EAST_ARROW NORTH_EAST_ARROW_CROSSING_SOUTH_EAST_ARROW
  FALLING_DIAGONAL_CROSSING_NORTH_EAST_ARROW RISING_DIAGONAL_CROSSING_SOUTH_EAST_ARROW NORTH_:
  EAST_ARROW_CROSSING_NORTH_WEST_ARROW WEST_ARROW_CROSSING_NORTH_EAST_ARROW
  WAVE_ARROW_POINTING_DIRECTLY_: RIGHT ARROW_POINTING_RIGHTWARDS_THEN_CURVING_: UPWARDS DOWNWARDS
  ARROW_POINTING_DOWNWARDS_THEN_CURVING_: LEFTWARDS RIGHTWARDS : RIGHT-SIDE_ARC_CLOCKWISE_ARROW
  LEFT-SIDE_ARC_ANTICLOCKWISE_ARROW TOP_ARC_ANTICLOCKWISE_ARROW BOTTOM_ARC_ANTICLOCKWISE_ARROW
  TOP_ARC_: CLOCKWISE_ARROW_WITH_MINUS ANTICLOCKWISE_ARROW_WITH_PLUS LOWER_:
  RIGHT_SEMICIRCULAR_CLOCKWISE_ARROW LEFT_SEMICIRCULAR_ANTICLOCKWISE_ARROW :
  ANTICLOCKWISE_CLOSED_CIRCLE_ARROW CLOCKWISE_CLOSED_CIRCLE_ARROW
  RIGHTWARDS_ARROW_ABOVE_SHORT_LEFTWARDS_ARROW LEFTWARDS_ARROW_ABOVE_SHORT_RIGHTWARDS_ARROW
  SHORT_RIGHTWARDS_ARROW_ABOVE_LEFTWARDS_ARROW RIGHTWARDS_ARROW_WITH_PLUS_BELOW
  LEFTWARDS_ARROW_WITH_PLUS_BELOW RIGHTWARDS_ARROW_THROUGH_X LEFT_RIGHT_ARROW_THROUGH_SMALL_CIRCLE
  UPWARDS_TWO-HEADED_ARROW_FROM_SMALL_CIRCLE LEFT_BARB_: UP_RIGHT_BARB_DOWN_HARPOON
  DOWN_RIGHT_BARB_UP_HARPOON UP_BARB_: RIGHT_DOWN_BARB_LEFT_HARPOON LEFT_DOWN_BARB_RIGHT_HARPOON :
  LEFT_BARB_UP_RIGHT_BARB_UP_HARPOON UP_BARB_RIGHT_DOWN_BARB_RIGHT_HARPOON
  LEFT_BARB_DOWN_RIGHT_BARB_DOWN_HARPOON UP_BARB_LEFT_DOWN_BARB_LEFT_HARPOON
  LEFTWARDS_HARPOON_WITH_BARB_UP_TO_BAR RIGHTWARDS_HARPOON_WITH_BARB_UP_TO_BAR
  UPWARDS_HARPOON_WITH_BARB_RIGHT_TO_BAR DOWNWARDS_HARPOON_WITH_BARB_RIGHT_TO_BAR
  LEFTWARDS_HARPOON_WITH_BARB_DOWN_TO_BAR RIGHTWARDS_HARPOON_WITH_BARB_DOWN_TO_BAR
  UPWARDS_HARPOON_WITH_BARB_LEFT_TO_BAR DOWNWARDS_HARPOON_WITH_BARB_LEFT_TO_BAR
  LEFTWARDS_HARPOON_WITH_BARB_UP_FROM_BAR RIGHTWARDS_HARPOON_WITH_BARB_UP_FROM_BAR
  UPWARDS_HARPOON_WITH_BARB_RIGHT_FROM_BAR DOWNWARDS_HARPOON_WITH_BARB_RIGHT_FROM_BAR
  LEFTWARDS_HARPOON_WITH_BARB_DOWN_FROM_BAR RIGHTWARDS_HARPOON_WITH_BARB_DOWN_FROM_BAR
  UPWARDS_HARPOON_WITH_BARB_LEFT_FROM_BAR DOWNWARDS_HARPOON_WITH_BARB_LEFT_FROM_BAR
  LEFTWARDS_HARPOON_WITH_BARB_UP_ABOVE_LEFTWARDS_HARPOON_WITH_BARB_DOWN
  UPWARDS_HARPOON_WITH_BARB_LEFT_BESIDE_UPWARDS_HARPOON_WITH_BARB_RIGHT
  RIGHTWARDS_HARPOON_WITH_BARB_UP_ABOVE_RIGHTWARDS_HARPOON_WITH_BARB_DOWN
  DOWNWARDS_HARPOON_WITH_BARB_LEFT_BESIDE_DOWNWARDS_HARPOON_WITH_BARB_RIGHT
  LEFTWARDS_HARPOON_WITH_BARB_: UP_ABOVE_RIGHTWARDS_HARPOON_WITH_BARB_UP
  DOWN_ABOVE_RIGHTWARDS_HARPOON_WITH_BARB_DOWN RIGHTWARDS_HARPOON_WITH_BARB_:
  UP_ABOVE_LEFTWARDS_HARPOON_WITH_BARB_UP DOWN_ABOVE_LEFTWARDS_HARPOON_WITH_BARB_DOWN
  LEFTWARDS_HARPOON_WITH_BARB_: UP_ABOVE_LONG_DASH DOWN_BELOW_LONG_DASH
  RIGHTWARDS_HARPOON_WITH_BARB_: UP_ABOVE_LONG_DASH DOWN_BELOW_LONG_DASH :
  UPWARDS_HARPOON_WITH_BARB_LEFT_BESIDE_DOWNWARDS_HARPOON_WITH_BARB_RIGHT
  DOWNWARDS_HARPOON_WITH_BARB_LEFT_BESIDE_UPWARDS_HARPOON_WITH_BARB_RIGHT
  RIGHT_DOUBLE_ARROW_WITH_ROUNDED_HEAD EQUALS_SIGN_ABOVE_RIGHTWARDS_ARROW
  TILDE_OPERATOR_ABOVE_RIGHTWARDS_ARROW LEFTWARDS_ARROW_ABOVE_TILDE_OPERATOR
  RIGHTWARDS_ARROW_ABOVE_: TILDE_OPERATOR ALMOST_EQUAL_TO : LESS-THAN_ABOVE_LEFTWARDS_ARROW
  LEFTWARDS_ARROW_THROUGH_LESS-THAN GREATER-THAN_ABOVE_RIGHTWARDS_ARROW
  SUBSET_ABOVE_RIGHTWARDS_ARROW LEFTWARDS_ARROW_THROUGH_SUBSET SUPERSET_ABOVE_LEFTWARDS_ARROW
  LEFT_FISH_TAIL RIGHT_FISH_TAIL UP_FISH_TAIL DOWN_FISH_TAIL TRIPLE_VERTICAL_BAR_DELIMITER
  Z_NOTATION_: SPOT TYPE_COLON : LEFT_WHITE_CURLY_BRACKET RIGHT_WHITE_CURLY_BRACKET
  LEFT_WHITE_PARENTHESIS RIGHT_WHITE_PARENTHESIS Z_NOTATION_: LEFT_IMAGE_BRACKET
  RIGHT_IMAGE_BRACKET LEFT_BINDING_BRACKET RIGHT_BINDING_BRACKET :
  LEFT_SQUARE_BRACKET_WITH_UNDERBAR RIGHT_SQUARE_BRACKET_WITH_UNDERBAR
  LEFT_SQUARE_BRACKET_WITH_TICK_IN_TOP_CORNER RIGHT_SQUARE_BRACKET_WITH_TICK_IN_BOTTOM_CORNER
  LEFT_SQUARE_BRACKET_WITH_TICK_IN_BOTTOM_CORNER RIGHT_SQUARE_BRACKET_WITH_TICK_IN_TOP_CORNER
  LEFT_ANGLE_BRACKET_WITH_DOT RIGHT_ANGLE_BRACKET_WITH_DOT LEFT_ARC_LESS-THAN_BRACKET
  RIGHT_ARC_GREATER-THAN_BRACKET DOUBLE_: LEFT_ARC_GREATER-THAN_BRACKET RIGHT_ARC_LESS-THAN_BRACKET
  : LEFT_BLACK_TORTOISE_SHELL_BRACKET RIGHT_BLACK_TORTOISE_SHELL_BRACKET DOTTED_FENCE
  VERTICAL_ZIGZAG_LINE MEASURED_ANGLE_OPENING_LEFT RIGHT_ANGLE_VARIANT_WITH_SQUARE
  MEASURED_RIGHT_ANGLE_WITH_DOT ANGLE_WITH_S_INSIDE ACUTE_ANGLE SPHERICAL_ANGLE_OPENING_: LEFT UP :
  TURNED_ANGLE REVERSED_ANGLE ANGLE_WITH_UNDERBAR REVERSED_ANGLE_WITH_UNDERBAR
  OBLIQUE_ANGLE_OPENING_: UP DOWN MEASURED_ANGLE_WITH_OPEN_ARM_ENDING_IN_ARROW_POINTING_:
  UP_AND_RIGHT UP_AND_LEFT DOWN_AND_RIGHT DOWN_AND_LEFT RIGHT_AND_UP LEFT_AND_UP RIGHT_AND_DOWN
  LEFT_AND_DOWN REVERSED_EMPTY_: SET EMPTY_SET_WITH_: OVERBAR SMALL_CIRCLE_ABOVE RIGHT_ARROW_ABOVE
  LEFT_ARROW_ABOVE CIRCLE_WITH_HORIZONTAL_: BAR CIRCLED_: VERTICAL_BAR PARALLEL REVERSE_SOLIDUS
  PERPENDICULAR CIRCLE_: DIVIDED_BY_HORIZONTAL_BAR_AND_TOP_HALF_DIVIDED_BY_VERTICAL_BAR
  WITH_SUPERIMPOSED_X : CIRCLED_ANTICLOCKWISE-ROTATED_DIVISION_SIGN UP_ARROW_THROUGH_CIRCLE
  CIRCLED_: WHITE_BULLET BULLET LESS-THAN GREATER-THAN CIRCLE_WITH_: SMALL_CIRCLE_TO_THE_RIGHT
  TWO_HORIZONTAL_STROKES_TO_THE_RIGHT SQUARED_: RISING_DIAGONAL_SLASH FALLING_DIAGONAL_SLASH
  ASTERISK SMALL_CIRCLE SQUARE TWO_JOINED_: SQUARES TRIANGLE_WITH_: DOT_ABOVE UNDERBAR :
  S_IN_TRIANGLE TRIANGLE_WITH_SERIFS_AT_BOTTOM RIGHT_TRIANGLE_ABOVE_LEFT_TRIANGLE
  LEFT_TRIANGLE_BESIDE_VERTICAL_BAR VERTICAL_BAR_BESIDE_RIGHT_TRIANGLE BOWTIE_WITH_:
  LEFT_HALF_BLACK RIGHT_HALF_BLACK BLACK_: BOWTIE TIMES_WITH_: LEFT_HALF_BLACK RIGHT_HALF_BLACK :
  WHITE_HOURGLASS BLACK_HOURGLASS LEFT_WIGGLY_FENCE RIGHT_WIGGLY_FENCE LEFT_DOUBLE_WIGGLY_FENCE
  RIGHT_DOUBLE_WIGGLY_FENCE INCOMPLETE_INFINITY TIE_OVER_INFINITY
  INFINITY_NEGATED_WITH_VERTICAL_BAR DOUBLE-ENDED_MULTIMAP SQUARE_WITH_CONTOURED_OUTLINE
  INCREASES_AS SHUFFLE_PRODUCT EQUALS_SIGN_AND_SLANTED_: PARALLEL PARALLEL_WITH_TILDE_ABOVE :
  IDENTICAL_TO_AND_SLANTED_PARALLEL GLEICH_STARK THERMODYNAMIC DOWN-POINTING_TRIANGLE_WITH_:
  LEFT_HALF_BLACK RIGHT_HALF_BLACK BLACK_: DIAMOND_WITH_DOWN_ARROW LOZENGE :
  WHITE_CIRCLE_WITH_DOWN_ARROW BLACK_CIRCLE_WITH_DOWN_ARROW ERROR-BARRED_: WHITE_SQUARE
  BLACK_SQUARE WHITE_DIAMOND BLACK_DIAMOND WHITE_CIRCLE BLACK_CIRCLE : RULE-DELAYED
  REVERSE_SOLIDUS_OPERATOR SOLIDUS_WITH_OVERBAR REVERSE_SOLIDUS_WITH_HORIZONTAL_STROKE BIG_SOLIDUS
  BIG_REVERSE_SOLIDUS DOUBLE_PLUS TRIPLE_PLUS LEFT-POINTING_CURVED_ANGLE_BRACKET
  RIGHT-POINTING_CURVED_ANGLE_BRACKET TINY MINY N-ARY_CIRCLED_: DOT_OPERATOR PLUS_OPERATOR
  TIMES_OPERATOR N-ARY_UNION_OPERATOR_WITH_: DOT PLUS N-ARY_SQUARE_: INTERSECTION_OPERATOR
  UNION_OPERATOR TWO_LOGICAL_: AND_OPERATOR OR_OPERATOR : N-ARY_TIMES_OPERATOR MODULO_TWO_SUM
  SUMMATION_WITH_INTEGRAL QUADRUPLE_INTEGRAL_OPERATOR FINITE_PART_INTEGRAL INTEGRAL_:
  WITH_DOUBLE_STROKE AVERAGE_WITH_SLASH : CIRCULATION_FUNCTION ANTICLOCKWISE_INTEGRATION
  LINE_INTEGRATION_: WITH_RECTANGULAR_PATH_AROUND_POLE WITH_SEMICIRCULAR_PATH_AROUND_POLE
  NOT_INCLUDING_THE_POLE : INTEGRAL_AROUND_A_POINT_OPERATOR QUATERNION_INTEGRAL_OPERATOR
  INTEGRAL_WITH_: LEFTWARDS_ARROW_WITH_HOOK TIMES_SIGN INTERSECTION UNION OVERBAR UNDERBAR : JOIN
  LARGE_LEFT_TRIANGLE_OPERATOR Z_NOTATION_SCHEMA_: COMPOSITION PIPING PROJECTION PLUS_SIGN_WITH_:
  SMALL_CIRCLE_ABOVE CIRCUMFLEX_ACCENT_ABOVE TILDE_ABOVE DOT_BELOW TILDE_BELOW SUBSCRIPT_TWO
  BLACK_TRIANGLE MINUS_SIGN_WITH_: COMMA_ABOVE DOT_BELOW FALLING_DOTS RISING_DOTS PLUS_SIGN_IN_:
  LEFT_HALF_CIRCLE RIGHT_HALF_CIRCLE VECTOR_OR_CROSS_: PRODUCT MULTIPLICATION_SIGN_WITH_: DOT_ABOVE
  UNDERBAR : SEMIDIRECT_PRODUCT_WITH_BOTTOM_CLOSED SMASH_PRODUCT MULTIPLICATION_SIGN_IN_:
  LEFT_HALF_CIRCLE RIGHT_HALF_CIRCLE : CIRCLED_MULTIPLICATION_SIGN_WITH_CIRCUMFLEX_ACCENT
  MULTIPLICATION_SIGN_IN_DOUBLE_CIRCLE CIRCLED_DIVISION_SIGN PLUS_SIGN_IN_TRIANGLE
  MINUS_SIGN_IN_TRIANGLE MULTIPLICATION_SIGN_IN_TRIANGLE INTERIOR_PRODUCT
  RIGHTHAND_INTERIOR_PRODUCT Z_NOTATION_RELATIONAL_COMPOSITION AMALGAMATION_OR_COPRODUCT
  INTERSECTION_WITH_DOT UNION_WITH_: MINUS_SIGN OVERBAR INTERSECTION_WITH_: OVERBAR LOGICAL_AND
  UNION_: WITH_LOGICAL_OR ABOVE_INTERSECTION : INTERSECTION_ABOVE_UNION
  UNION_ABOVE_BAR_ABOVE_INTERSECTION INTERSECTION_ABOVE_BAR_ABOVE_UNION
  UNION_BESIDE_AND_JOINED_WITH_UNION INTERSECTION_BESIDE_AND_JOINED_WITH_INTERSECTION CLOSED_:
  UNION_WITH_SERIFS INTERSECTION_WITH_SERIFS DOUBLE_SQUARE_: INTERSECTION UNION
  CLOSED_UNION_WITH_SERIFS_AND_SMASH_: PRODUCT LOGICAL_: AND_WITH_DOT_ABOVE OR_WITH_DOT_ABOVE
  DOUBLE_LOGICAL_: AND OR TWO_INTERSECTING_LOGICAL_: AND OR SLOPING_LARGE_: OR AND LOGICAL_:
  OR_OVERLAPPING_LOGICAL_AND AND_WITH_MIDDLE_STEM OR_WITH_MIDDLE_STEM AND_WITH_HORIZONTAL_DASH
  OR_WITH_HORIZONTAL_DASH LOGICAL_AND_WITH_: DOUBLE_OVERBAR UNDERBAR DOUBLE_UNDERBAR
  SMALL_VEE_WITH_: UNDERBAR LOGICAL_OR_WITH_DOUBLE_: OVERBAR UNDERBAR Z_NOTATION_:
  DOMAIN_ANTIRESTRICTION RANGE_ANTIRESTRICTION : EQUALS_SIGN_WITH_DOT_BELOW
  IDENTICAL_WITH_DOT_ABOVE TRIPLE_HORIZONTAL_BAR_WITH_: DOUBLE_VERTICAL_STROKE
  TRIPLE_VERTICAL_STROKE TILDE_OPERATOR_WITH_: DOT_ABOVE RISING_DOTS : SIMILAR_MINUS_SIMILAR
  CONGRUENT_WITH_DOT_ABOVE EQUALS_WITH_ASTERISK ALMOST_EQUAL_TO_WITH_CIRCUMFLEX_ACCENT
  APPROXIMATELY_EQUAL_OR_EQUAL_TO EQUALS_SIGN_ABOVE_PLUS_SIGN PLUS_SIGN_ABOVE_EQUALS_SIGN
  EQUALS_SIGN_ABOVE_TILDE_OPERATOR DOUBLE_COLON_EQUAL TWO_CONSECUTIVE_EQUALS_SIGNS
  THREE_CONSECUTIVE_EQUALS_SIGNS EQUALS_SIGN_WITH_TWO_DOTS_ABOVE_AND_TWO_DOTS_BELOW
  EQUIVALENT_WITH_FOUR_DOTS_ABOVE LESS-THAN_WITH_CIRCLE_INSIDE GREATER-THAN_WITH_CIRCLE_INSIDE
  LESS-THAN_WITH_QUESTION_MARK_ABOVE GREATER-THAN_WITH_QUESTION_MARK_ABOVE
  LESS-THAN_OR_SLANTED_EQUAL_TO GREATER-THAN_OR_SLANTED_EQUAL_TO
  LESS-THAN_OR_SLANTED_EQUAL_TO_WITH_DOT_INSIDE GREATER-THAN_OR_SLANTED_EQUAL_TO_WITH_DOT_INSIDE
  LESS-THAN_OR_SLANTED_EQUAL_TO_WITH_DOT_ABOVE GREATER-THAN_OR_SLANTED_EQUAL_TO_WITH_DOT_ABOVE
  LESS-THAN_OR_SLANTED_EQUAL_TO_WITH_DOT_ABOVE_RIGHT
  GREATER-THAN_OR_SLANTED_EQUAL_TO_WITH_DOT_ABOVE_LEFT LESS-THAN_OR_APPROXIMATE
  GREATER-THAN_OR_APPROXIMATE LESS-THAN_AND_SINGLE-LINE_NOT_EQUAL_TO
  GREATER-THAN_AND_SINGLE-LINE_NOT_EQUAL_TO LESS-THAN_AND_NOT_APPROXIMATE
  GREATER-THAN_AND_NOT_APPROXIMATE LESS-THAN_ABOVE_DOUBLE-LINE_EQUAL_ABOVE_GREATER-THAN
  GREATER-THAN_ABOVE_DOUBLE-LINE_EQUAL_ABOVE_LESS-THAN LESS-THAN_ABOVE_SIMILAR_OR_EQUAL
  GREATER-THAN_ABOVE_SIMILAR_OR_EQUAL LESS-THAN_ABOVE_SIMILAR_ABOVE_GREATER-THAN
  GREATER-THAN_ABOVE_SIMILAR_ABOVE_LESS-THAN LESS-THAN_ABOVE_GREATER-THAN_ABOVE_DOUBLE-LINE_EQUAL
  GREATER-THAN_ABOVE_LESS-THAN_ABOVE_DOUBLE-LINE_EQUAL
  LESS-THAN_ABOVE_SLANTED_EQUAL_ABOVE_GREATER-THAN_ABOVE_SLANTED_EQUAL
  GREATER-THAN_ABOVE_SLANTED_EQUAL_ABOVE_LESS-THAN_ABOVE_SLANTED_EQUAL SLANTED_EQUAL_TO_OR_:
  LESS-THAN GREATER-THAN LESS-THAN_WITH_DOT_INSIDE GREATER-THAN_WITH_DOT_INSIDE
  DOUBLE-LINE_EQUAL_TO_OR_: LESS-THAN GREATER-THAN DOUBLE-LINE_SLANTED_EQUAL_TO_OR_: LESS-THAN
  GREATER-THAN SIMILAR_: OR_LESS-THAN OR_GREATER-THAN ABOVE_LESS-THAN_ABOVE_EQUALS_SIGN
  ABOVE_GREATER-THAN_ABOVE_EQUALS_SIGN DOUBLE_NESTED_: LESS-THAN GREATER-THAN
  LESS-THAN_WITH_UNDERBAR GREATER-THAN_: OVERLAPPING_LESS-THAN BESIDE_LESS-THAN :
  LESS-THAN_CLOSED_BY_CURVE GREATER-THAN_CLOSED_BY_CURVE
  LESS-THAN_CLOSED_BY_CURVE_ABOVE_SLANTED_EQUAL GREATER-THAN_CLOSED_BY_CURVE_ABOVE_SLANTED_EQUAL
  SMALLER_THAN LARGER_THAN SMALLER_THAN_OR_EQUAL_TO LARGER_THAN_OR_EQUAL_TO
  EQUALS_SIGN_WITH_BUMPY_ABOVE PRECEDES_ABOVE_SINGLE-LINE_EQUALS_SIGN
  SUCCEEDS_ABOVE_SINGLE-LINE_EQUALS_SIGN PRECEDES_ABOVE_SINGLE-LINE_NOT_EQUAL_TO
  SUCCEEDS_ABOVE_SINGLE-LINE_NOT_EQUAL_TO PRECEDES_ABOVE_EQUALS_SIGN SUCCEEDS_ABOVE_EQUALS_SIGN
  PRECEDES_ABOVE_NOT_EQUAL_TO SUCCEEDS_ABOVE_NOT_EQUAL_TO PRECEDES_ABOVE_ALMOST_EQUAL_TO
  SUCCEEDS_ABOVE_ALMOST_EQUAL_TO PRECEDES_ABOVE_NOT_ALMOST_EQUAL_TO
  SUCCEEDS_ABOVE_NOT_ALMOST_EQUAL_TO DOUBLE_: PRECEDES SUCCEEDS : SUBSET_WITH_DOT SUPERSET_WITH_DOT
  SUBSET_WITH_PLUS_SIGN_BELOW SUPERSET_WITH_PLUS_SIGN_BELOW SUBSET_WITH_MULTIPLICATION_SIGN_BELOW
  SUPERSET_WITH_MULTIPLICATION_SIGN_BELOW SUBSET_OF_OR_EQUAL_TO_WITH_DOT_ABOVE
  SUPERSET_OF_OR_EQUAL_TO_WITH_DOT_ABOVE SUBSET_OF_ABOVE_EQUALS_SIGN SUPERSET_OF_ABOVE_EQUALS_SIGN
  SUBSET_OF_ABOVE_TILDE_OPERATOR SUPERSET_OF_ABOVE_TILDE_OPERATOR SUBSET_OF_ABOVE_ALMOST_EQUAL_TO
  SUPERSET_OF_ABOVE_ALMOST_EQUAL_TO SUBSET_OF_ABOVE_NOT_EQUAL_TO SUPERSET_OF_ABOVE_NOT_EQUAL_TO
  SQUARE_: LEFT_OPEN_BOX_OPERATOR RIGHT_OPEN_BOX_OPERATOR CLOSED_: SUBSET SUPERSET
  SUBSET_OR_EQUAL_TO SUPERSET_OR_EQUAL_TO : SUBSET_ABOVE_SUPERSET SUPERSET_ABOVE_SUBSET
  SUBSET_ABOVE_SUBSET SUPERSET_: ABOVE_SUPERSET BESIDE_SUBSET BESIDE_AND_JOINED_BY_DASH_WITH_SUBSET
  : ELEMENT_OF_OPENING_DOWNWARDS PITCHFORK_WITH_TEE_TOP TRANSVERSAL_INTERSECTION FORKING NONFORKING
  SHORT_: LEFT_TACK DOWN_TACK UP_TACK : PERPENDICULAR_WITH_S VERTICAL_BAR_TRIPLE_RIGHT_TURNSTILE
  DOUBLE_VERTICAL_BAR_LEFT_TURNSTILE VERTICAL_BAR_DOUBLE_LEFT_TURNSTILE
  DOUBLE_VERTICAL_BAR_DOUBLE_LEFT_TURNSTILE LONG_DASH_FROM_LEFT_MEMBER_OF_DOUBLE_VERTICAL
  SHORT_DOWN_TACK_WITH_OVERBAR SHORT_UP_TACK_: WITH_UNDERBAR ABOVE_SHORT_DOWN_TACK DOUBLE_:
  DOWN_TACK UP_TACK STROKE_NOT_SIGN : REVERSED_DOUBLE_STROKE_NOT_SIGN
  DOES_NOT_DIVIDE_WITH_REVERSED_NEGATION_SLASH VERTICAL_LINE_WITH_CIRCLE_: ABOVE BELOW
  DOWN_TACK_WITH_CIRCLE_: BELOW PARALLEL_WITH_: HORIZONTAL_STROKE TILDE_OPERATOR
  TRIPLE_VERTICAL_BAR_: BINARY_RELATION WITH_HORIZONTAL_STROKE TRIPLE_: COLON_OPERATOR
  NESTED_LESS-THAN NESTED_GREATER-THAN DOUBLE-LINE_SLANTED_: LESS-THAN_OR_EQUAL_TO
  GREATER-THAN_OR_EQUAL_TO : TRIPLE_SOLIDUS_BINARY_RELATION LARGE_TRIPLE_VERTICAL_BAR_OPERATOR
  DOUBLE_SOLIDUS_OPERATOR WHITE_VERTICAL_BAR N-ARY_WHITE_VERTICAL_BAR NORTH_: EAST_WHITE_ARROW
  WEST_WHITE_ARROW SOUTH_: EAST_WHITE_ARROW WEST_WHITE_ARROW : LEFT_RIGHT_WHITE_ARROW
  LEFTWARDS_BLACK_ARROW UPWARDS_BLACK_ARROW DOWNWARDS_BLACK_ARROW NORTH_: EAST_BLACK_ARROW
  WEST_BLACK_ARROW SOUTH_: EAST_BLACK_ARROW WEST_BLACK_ARROW : LEFT_RIGHT_BLACK_ARROW
  UP_DOWN_BLACK_ARROW RIGHTWARDS_ARROW_WITH_TIP_: DOWNWARDS UPWARDS LEFTWARDS_ARROW_WITH_TIP_:
  DOWNWARDS UPWARDS SQUARE_WITH_: TOP_HALF_BLACK BOTTOM_HALF_BLACK UPPER_RIGHT_DIAGONAL_HALF_BLACK
  LOWER_LEFT_DIAGONAL_HALF_BLACK DIAMOND_WITH_: LEFT_HALF_BLACK RIGHT_HALF_BLACK TOP_HALF_BLACK
  BOTTOM_HALF_BLACK : DOTTED_SQUARE BLACK_LARGE_SQUARE WHITE_LARGE_SQUARE BLACK_VERY_SMALL_SQUARE
  WHITE_VERY_SMALL_SQUARE BLACK_PENTAGON WHITE_: PENTAGON HEXAGON : BLACK_HEXAGON
  HORIZONTAL_BLACK_HEXAGON BLACK_: LARGE_CIRCLE MEDIUM_DIAMOND : WHITE_MEDIUM_DIAMOND
  BLACK_MEDIUM_LOZENGE WHITE_MEDIUM_LOZENGE BLACK_SMALL_: DIAMOND LOZENGE : WHITE_SMALL_LOZENGE
  BLACK_HORIZONTAL_ELLIPSE WHITE_HORIZONTAL_ELLIPSE BLACK_VERTICAL_ELLIPSE WHITE_VERTICAL_ELLIPSE
  LEFT_ARROW_WITH_SMALL_CIRCLE THREE_LEFTWARDS_ARROWS LEFT_ARROW_WITH_CIRCLED_PLUS
  LONG_LEFTWARDS_SQUIGGLE_ARROW LEFTWARDS_TWO-HEADED_: ARROW_WITH_VERTICAL_STROKE
  ARROW_WITH_DOUBLE_VERTICAL_STROKE ARROW_FROM_BAR TRIPLE_DASH_ARROW LEFTWARDS_ARROW_WITH_:
  DOTTED_STEM TAIL_WITH_VERTICAL_STROKE TAIL_WITH_DOUBLE_VERTICAL_STROKE
  LEFTWARDS_TWO-HEADED_ARROW_WITH_: TAIL TAIL_WITH_VERTICAL_STROKE TAIL_WITH_DOUBLE_VERTICAL_STROKE
  : LEFTWARDS_ARROW_THROUGH_X WAVE_ARROW_POINTING_DIRECTLY_LEFT EQUALS_SIGN_ABOVE_LEFTWARDS_ARROW
  REVERSE_TILDE_OPERATOR_ABOVE_LEFTWARDS_ARROW LEFTWARDS_ARROW_ABOVE_REVERSE_ALMOST_EQUAL_TO
  RIGHTWARDS_ARROW_THROUGH_: GREATER-THAN SUPERSET : LEFTWARDS_QUADRUPLE_ARROW
  RIGHTWARDS_QUADRUPLE_ARROW REVERSE_TILDE_OPERATOR_ABOVE_RIGHTWARDS_ARROW
  RIGHTWARDS_ARROW_ABOVE_REVERSE_ALMOST_EQUAL_TO TILDE_OPERATOR_ABOVE_LEFTWARDS_ARROW
  LEFTWARDS_ARROW_ABOVE_: ALMOST_EQUAL_TO REVERSE_TILDE_OPERATOR :
  RIGHTWARDS_ARROW_ABOVE_REVERSE_TILDE_OPERATOR DOWNWARDS_TRIANGLE-HEADED_ZIGZAG_ARROW SHORT_:
  SLANTED_NORTH_ARROW BACKSLANTED_SOUTH_ARROW : WHITE_MEDIUM_STAR BLACK_SMALL_STAR WHITE_SMALL_STAR
  BLACK_RIGHT-POINTING_PENTAGON WHITE_RIGHT-POINTING_PENTAGON HEAVY_: LARGE_CIRCLE
  OVAL_WITH_OVAL_INSIDE CIRCLE_WITH_CIRCLE_INSIDE CIRCLE CIRCLED_SALTIRE :
  SLANTED_NORTH_ARROW_WITH_HOOKED_HEAD BACKSLANTED_SOUTH_ARROW_WITH_HOOKED_TAIL
  SLANTED_NORTH_ARROW_WITH_HORIZONTAL_TAIL BACKSLANTED_SOUTH_ARROW_WITH_HORIZONTAL_TAIL
  BENT_ARROW_POINTING_DOWNWARDS_THEN_NORTH_EAST SHORT_BENT_ARROW_POINTING_DOWNWARDS_THEN_NORTH_EAST
  LEFTWARDS_TRIANGLE-HEADED_ARROW UPWARDS_TRIANGLE-HEADED_ARROW RIGHTWARDS_TRIANGLE-HEADED_ARROW
  DOWNWARDS_TRIANGLE-HEADED_ARROW LEFT_RIGHT_TRIANGLE-HEADED_ARROW UP_DOWN_TRIANGLE-HEADED_ARROW
  NORTH_: WEST_TRIANGLE-HEADED_ARROW EAST_TRIANGLE-HEADED_ARROW SOUTH_: EAST_TRIANGLE-HEADED_ARROW
  WEST_TRIANGLE-HEADED_ARROW : LEFTWARDS_TRIANGLE-HEADED_DASHED_ARROW
  UPWARDS_TRIANGLE-HEADED_DASHED_ARROW RIGHTWARDS_TRIANGLE-HEADED_DASHED_ARROW
  DOWNWARDS_TRIANGLE-HEADED_DASHED_ARROW CLOCKWISE_TRIANGLE-HEADED_OPEN_CIRCLE_ARROW
  ANTICLOCKWISE_TRIANGLE-HEADED_OPEN_CIRCLE_ARROW LEFTWARDS_TRIANGLE-HEADED_ARROW_TO_BAR
  UPWARDS_TRIANGLE-HEADED_ARROW_TO_BAR RIGHTWARDS_TRIANGLE-HEADED_ARROW_TO_BAR
  DOWNWARDS_TRIANGLE-HEADED_ARROW_TO_BAR @2B76 NORTH_: WEST_TRIANGLE-HEADED_ARROW_TO_BAR
  EAST_TRIANGLE-HEADED_ARROW_TO_BAR SOUTH_: EAST_TRIANGLE-HEADED_ARROW_TO_BAR
  WEST_TRIANGLE-HEADED_ARROW_TO_BAR : LEFTWARDS_TRIANGLE-HEADED_ARROW_WITH_DOUBLE_HORIZONTAL_STROKE
  UPWARDS_TRIANGLE-HEADED_ARROW_WITH_DOUBLE_HORIZONTAL_STROKE
  RIGHTWARDS_TRIANGLE-HEADED_ARROW_WITH_DOUBLE_HORIZONTAL_STROKE
  DOWNWARDS_TRIANGLE-HEADED_ARROW_WITH_DOUBLE_HORIZONTAL_STROKE HORIZONTAL_TAB_KEY VERTICAL_TAB_KEY
  LEFTWARDS_TRIANGLE-HEADED_ARROW_OVER_RIGHTWARDS_TRIANGLE-HEADED_ARROW
  UPWARDS_TRIANGLE-HEADED_ARROW_LEFTWARDS_OF_DOWNWARDS_TRIANGLE-HEADED_ARROW
  RIGHTWARDS_TRIANGLE-HEADED_ARROW_OVER_LEFTWARDS_TRIANGLE-HEADED_ARROW
  DOWNWARDS_TRIANGLE-HEADED_ARROW_LEFTWARDS_OF_UPWARDS_TRIANGLE-HEADED_ARROW
  LEFTWARDS_TRIANGLE-HEADED_PAIRED_ARROWS UPWARDS_TRIANGLE-HEADED_PAIRED_ARROWS
  RIGHTWARDS_TRIANGLE-HEADED_PAIRED_ARROWS DOWNWARDS_TRIANGLE-HEADED_PAIRED_ARROWS
  LEFTWARDS_BLACK_CIRCLED_WHITE_ARROW UPWARDS_BLACK_CIRCLED_WHITE_ARROW
  RIGHTWARDS_BLACK_CIRCLED_WHITE_ARROW DOWNWARDS_BLACK_CIRCLED_WHITE_ARROW
  ANTICLOCKWISE_TRIANGLE-HEADED_: RIGHT_U-SHAPED_ARROW BOTTOM_U-SHAPED_ARROW LEFT_U-SHAPED_ARROW
  TOP_U-SHAPED_ARROW RETURN_: LEFT RIGHT NEWLINE_: LEFT RIGHT :
  FOUR_CORNER_ARROWS_CIRCLING_ANTICLOCKWISE RIGHTWARDS_BLACK_ARROW @2B97 SYMBOL_FOR_TYPE_A_:
  ELECTRONICS THREE-D_: TOP-LIGHTED_LEFTWARDS_EQUILATERAL_ARROWHEAD
  RIGHT-LIGHTED_UPWARDS_EQUILATERAL_ARROWHEAD TOP-LIGHTED_RIGHTWARDS_EQUILATERAL_ARROWHEAD
  LEFT-LIGHTED_DOWNWARDS_EQUILATERAL_ARROWHEAD BLACK_: LEFTWARDS_EQUILATERAL_ARROWHEAD
  UPWARDS_EQUILATERAL_ARROWHEAD RIGHTWARDS_EQUILATERAL_ARROWHEAD DOWNWARDS_EQUILATERAL_ARROWHEAD
  DOWNWARDS_TRIANGLE-HEADED_ARROW_WITH_LONG_TIP_: LEFTWARDS RIGHTWARDS
  UPWARDS_TRIANGLE-HEADED_ARROW_WITH_LONG_TIP_: LEFTWARDS RIGHTWARDS :
  LEFTWARDS_TRIANGLE-HEADED_ARROW_WITH_LONG_TIP_UPWARDS
  RIGHTWARDS_TRIANGLE-HEADED_ARROW_WITH_LONG_TIP_UPWARDS
  LEFTWARDS_TRIANGLE-HEADED_ARROW_WITH_LONG_TIP_DOWNWARDS
  RIGHTWARDS_TRIANGLE-HEADED_ARROW_WITH_LONG_TIP_DOWNWARDS BLACK_CURVED_:
  DOWNWARDS_AND_LEFTWARDS_ARROW DOWNWARDS_AND_RIGHTWARDS_ARROW UPWARDS_AND_LEFTWARDS_ARROW
  UPWARDS_AND_RIGHTWARDS_ARROW LEFTWARDS_AND_UPWARDS_ARROW RIGHTWARDS_AND_UPWARDS_ARROW
  LEFTWARDS_AND_DOWNWARDS_ARROW RIGHTWARDS_AND_DOWNWARDS_ARROW RIBBON_ARROW_: DOWN_LEFT DOWN_RIGHT
  UP_LEFT UP_RIGHT LEFT_UP RIGHT_UP LEFT_DOWN RIGHT_DOWN :
  UPWARDS_WHITE_ARROW_FROM_BAR_WITH_HORIZONTAL_BAR UP_ARROWHEAD_IN_A_RECTANGLE_BOX OVERLAPPING_:
  WHITE_SQUARES WHITE_AND_BLACK_SQUARES BLACK_SQUARES BALLOT_BOX_WITH_LIGHT_: X CIRCLED_: X BOLD_X
  BLACK_: SQUARE_CENTRED DIAMOND_CENTRED : TURNED_BLACK_PENTAGON HORIZONTAL_BLACK_OCTAGON
  BLACK_OCTAGON BLACK_MEDIUM_: UP-POINTING_TRIANGLE_CENTRED DOWN-POINTING_TRIANGLE_CENTRED
  LEFT-POINTING_TRIANGLE_CENTRED RIGHT-POINTING_TRIANGLE_CENTRED : NEPTUNE_FORM_TWO
  TOP_HALF_BLACK_CIRCLE BOTTOM_HALF_BLACK_CIRCLE LIGHT_FOUR_POINTED_BLACK_CUSP
  ROTATED_LIGHT_FOUR_POINTED_BLACK_CUSP WHITE_FOUR_POINTED_CUSP ROTATED_WHITE_FOUR_POINTED_CUSP
  SQUARE_POSITION_INDICATOR UNCERTAINTY_SIGN GROUP_MARK PLUTO_FORM_: TWO THREE FOUR FIVE :
  TRANSPLUTO PROSERPINA ASTRAEA HYGIEA PHOLUS NESSUS WHITE_MOON_SELENA BLACK_DIAMOND_ON_CROSS
  TRUE_LIGHT_MOON_ARTA CUPIDO HADES ZEUS KRONOS APOLLON ADMETOS VULCANUS POSEIDON
  LEFT_HALF_BLACK_STAR RIGHT_HALF_BLACK_STAR STAR_WITH_: LEFT_HALF_BLACK RIGHT_HALF_BLACK :
  LEFTWARDS_TWO-HEADED_ARROW_WITH_TRIANGLE_ARROWHEADS
  UPWARDS_TWO-HEADED_ARROW_WITH_TRIANGLE_ARROWHEADS
  RIGHTWARDS_TWO-HEADED_ARROW_WITH_TRIANGLE_ARROWHEADS
  DOWNWARDS_TWO-HEADED_ARROW_WITH_TRIANGLE_ARROWHEADS ERIS_FORM_: ONE TWO : SEDNA
  RUSSIAN_ASTROLOGICAL_SYMBOL_: VIGINTILE NOVILE QUINTILE BINOVILE SENTAGON TREDECILE :
  EQUALS_SIGN_WITH_INFINITY_BELOW UNITED_SYMBOL SEPARATED_SYMBOL DOUBLED_SYMBOL PASSED_SYMBOL
  REVERSED_RIGHT_ANGLE HELLSCHREIBER_PAUSE_SYMBOL GLAGOLITIC_CAPITAL_LETTER_: AZU BUKY VEDE GLAGOLI
  DOBRO YESTU ZHIVETE DZELO ZEMLJA IZHE INITIAL_IZHE I DJERVI KAKO LJUDIJE MYSLITE NASHI ONU POKOJI
  RITSI SLOVO TVRIDO UKU FRITU HERU OTU PE SHTA TSI CHRIVI SHA YERU YERI YATI SPIDERY_HA YU
  SMALL_YUS SMALL_YUS_WITH_TAIL YO IOTATED_SMALL_YUS BIG_YUS IOTATED_BIG_YUS FITA IZHITSA SHTAPIC
  TROKUTASTI_A LATINATE_MYSLITE CAUDATE_CHRIVI GLAGOLITIC_SMALL_LETTER_: AZU BUKY VEDE GLAGOLI
  DOBRO YESTU ZHIVETE DZELO ZEMLJA IZHE INITIAL_IZHE I DJERVI KAKO LJUDIJE MYSLITE NASHI ONU POKOJI
  RITSI SLOVO TVRIDO UKU FRITU HERU OTU PE SHTA TSI CHRIVI SHA YERU YERI YATI SPIDERY_HA YU
  SMALL_YUS SMALL_YUS_WITH_TAIL YO IOTATED_SMALL_YUS BIG_YUS IOTATED_BIG_YUS FITA IZHITSA SHTAPIC
  TROKUTASTI_A LATINATE_MYSLITE CAUDATE_CHRIVI LATIN_: CAPITAL_LETTER_L_WITH_DOUBLE_BAR
  SMALL_LETTER_L_WITH_DOUBLE_BAR LATIN_CAPITAL_LETTER_: L_WITH_MIDDLE_TILDE P_WITH_STROKE
  R_WITH_TAIL LATIN_SMALL_LETTER_: A_WITH_STROKE T_WITH_DIAGONAL_STROKE LATIN_:
  CAPITAL_LETTER_H_WITH_DESCENDER SMALL_LETTER_H_WITH_DESCENDER CAPITAL_LETTER_K_WITH_DESCENDER
  SMALL_LETTER_K_WITH_DESCENDER CAPITAL_LETTER_Z_WITH_DESCENDER SMALL_LETTER_Z_WITH_DESCENDER
  LATIN_CAPITAL_LETTER_: ALPHA M_WITH_HOOK TURNED_A TURNED_ALPHA LATIN_:
  SMALL_LETTER_V_WITH_RIGHT_HOOK CAPITAL_LETTER_W_WITH_HOOK SMALL_LETTER_W_WITH_HOOK
  SMALL_LETTER_V_WITH_CURL CAPITAL_LETTER_HALF_H LATIN_SMALL_LETTER_: HALF_H TAILLESS_PHI
  E_WITH_NOTCH TURNED_R_WITH_TAIL O_WITH_LOW_RING_INSIDE LATIN_: LETTER_SMALL_CAPITAL_TURNED_E
  SUBSCRIPT_SMALL_LETTER_J MODIFIER_LETTER_CAPITAL_: V LATIN_CAPITAL_LETTER_: S_WITH_SWASH_TAIL
  Z_WITH_SWASH_TAIL COPTIC_: CAPITAL_LETTER_ALFA SMALL_LETTER_ALFA CAPITAL_LETTER_VIDA
  SMALL_LETTER_VIDA CAPITAL_LETTER_GAMMA SMALL_LETTER_GAMMA CAPITAL_LETTER_DALDA SMALL_LETTER_DALDA
  CAPITAL_LETTER_EIE SMALL_LETTER_EIE CAPITAL_LETTER_SOU SMALL_LETTER_SOU CAPITAL_LETTER_ZATA
  SMALL_LETTER_ZATA CAPITAL_LETTER_HATE SMALL_LETTER_HATE CAPITAL_LETTER_THETHE SMALL_LETTER_THETHE
  CAPITAL_LETTER_IAUDA SMALL_LETTER_IAUDA CAPITAL_LETTER_KAPA SMALL_LETTER_KAPA
  CAPITAL_LETTER_LAULA SMALL_LETTER_LAULA CAPITAL_LETTER_MI SMALL_LETTER_MI CAPITAL_LETTER_NI
  SMALL_LETTER_NI CAPITAL_LETTER_KSI SMALL_LETTER_KSI CAPITAL_LETTER_O SMALL_LETTER_O
  CAPITAL_LETTER_PI SMALL_LETTER_PI CAPITAL_LETTER_RO SMALL_LETTER_RO CAPITAL_LETTER_SIMA
  SMALL_LETTER_SIMA CAPITAL_LETTER_TAU SMALL_LETTER_TAU CAPITAL_LETTER_UA SMALL_LETTER_UA
  CAPITAL_LETTER_FI SMALL_LETTER_FI CAPITAL_LETTER_KHI SMALL_LETTER_KHI CAPITAL_LETTER_PSI
  SMALL_LETTER_PSI CAPITAL_LETTER_OOU SMALL_LETTER_OOU CAPITAL_LETTER_DIALECT-P_ALEF
  SMALL_LETTER_DIALECT-P_ALEF CAPITAL_LETTER_OLD_COPTIC_AIN SMALL_LETTER_OLD_COPTIC_AIN
  CAPITAL_LETTER_CRYPTOGRAMMIC_EIE SMALL_LETTER_CRYPTOGRAMMIC_EIE CAPITAL_LETTER_DIALECT-P_KAPA
  SMALL_LETTER_DIALECT-P_KAPA CAPITAL_LETTER_DIALECT-P_NI SMALL_LETTER_DIALECT-P_NI
  CAPITAL_LETTER_CRYPTOGRAMMIC_NI SMALL_LETTER_CRYPTOGRAMMIC_NI CAPITAL_LETTER_OLD_COPTIC_OOU
  SMALL_LETTER_OLD_COPTIC_OOU CAPITAL_LETTER_SAMPI SMALL_LETTER_SAMPI CAPITAL_LETTER_CROSSED_SHEI
  SMALL_LETTER_CROSSED_SHEI CAPITAL_LETTER_OLD_COPTIC_SHEI SMALL_LETTER_OLD_COPTIC_SHEI
  CAPITAL_LETTER_OLD_COPTIC_ESH SMALL_LETTER_OLD_COPTIC_ESH CAPITAL_LETTER_AKHMIMIC_KHEI
  SMALL_LETTER_AKHMIMIC_KHEI CAPITAL_LETTER_DIALECT-P_HORI SMALL_LETTER_DIALECT-P_HORI
  CAPITAL_LETTER_OLD_COPTIC_HORI SMALL_LETTER_OLD_COPTIC_HORI CAPITAL_LETTER_OLD_COPTIC_HA
  SMALL_LETTER_OLD_COPTIC_HA CAPITAL_LETTER_L-SHAPED_HA SMALL_LETTER_L-SHAPED_HA
  CAPITAL_LETTER_OLD_COPTIC_HEI SMALL_LETTER_OLD_COPTIC_HEI CAPITAL_LETTER_OLD_COPTIC_HAT
  SMALL_LETTER_OLD_COPTIC_HAT CAPITAL_LETTER_OLD_COPTIC_GANGIA SMALL_LETTER_OLD_COPTIC_GANGIA
  CAPITAL_LETTER_OLD_COPTIC_DJA SMALL_LETTER_OLD_COPTIC_DJA CAPITAL_LETTER_OLD_COPTIC_SHIMA
  SMALL_LETTER_OLD_COPTIC_SHIMA CAPITAL_LETTER_OLD_NUBIAN_SHIMA SMALL_LETTER_OLD_NUBIAN_SHIMA
  CAPITAL_LETTER_OLD_NUBIAN_NGI SMALL_LETTER_OLD_NUBIAN_NGI CAPITAL_LETTER_OLD_NUBIAN_NYI
  SMALL_LETTER_OLD_NUBIAN_NYI CAPITAL_LETTER_OLD_NUBIAN_WAU SMALL_LETTER_OLD_NUBIAN_WAU
  COPTIC_SYMBOL_: KAI MI_RO PI_RO STAUROS TAU_RO KHI_RO SHIMA_SIMA COPTIC_:
  CAPITAL_LETTER_CRYPTOGRAMMIC_SHEI SMALL_LETTER_CRYPTOGRAMMIC_SHEI
  CAPITAL_LETTER_CRYPTOGRAMMIC_GANGIA SMALL_LETTER_CRYPTOGRAMMIC_GANGIA COPTIC_COMBINING_: NI_ABOVE
  SPIRITUS_ASPER SPIRITUS_LENIS COPTIC_: CAPITAL_LETTER_BOHAIRIC_KHEI SMALL_LETTER_BOHAIRIC_KHEI
  @2CF9 COPTIC_OLD_NUBIAN_: FULL_STOP DIRECT_QUESTION_MARK INDIRECT_QUESTION_MARK VERSE_DIVIDER
  COPTIC_: FRACTION_ONE_HALF FULL_STOP MORPHOLOGICAL_DIVIDER GEORGIAN_SMALL_LETTER_: AN BAN GAN DON
  EN VIN ZEN TAN IN KAN LAS MAN NAR ON PAR ZHAR RAE SAN TAR UN PHAR KHAR GHAN QAR SHIN CHIN CAN JIL
  CIL CHAR XAN JHAN HAE HE HIE WE HAR HOE @2D27 YN @2D2D AEN @2D30 TIFINAGH_LETTER_: YA YAB YABH
  YAG YAGHH BERBER_ACADEMY_YAJ YAJ YAD YADH YADD YADDH YEY YAF YAK TUAREG_YAK YAKHH YAH
  BERBER_ACADEMY_YAH TUAREG_YAH YAHH YAA YAKH TUAREG_YAKH YAQ TUAREG_YAQ YI YAZH AHAGGAR_YAZH
  TUAREG_YAZH YAL YAM YAN TUAREG_YAGN TUAREG_YANG YAP YU YAR YARR YAGH TUAREG_YAGH AYER_YAGH YAS
  YASS YASH YAT YATH YACH YATT YAV YAW YAY YAZ TAWELLEMET_YAZ YAZZ YE YO @2D6F TIFINAGH_:
  MODIFIER_LETTER_LABIALIZATION_MARK SEPARATOR_MARK @2D7F TIFINAGH_CONSONANT_: JOINER
  ETHIOPIC_SYLLABLE_: LOA MOA ROA SOA SHOA BOA TOA COA NOA NYOA GLOTTAL_OA ZOA DOA DDOA JOA THOA
  CHOA PHOA POA GGWA GGWI GGWEE GGWE @2DA0 SSA SSU SSI SSAA SSEE SSE SSO @2DA8 CCA CCU CCI CCAA
  CCEE CCE CCO @2DB0 ZZA ZZU ZZI ZZAA ZZEE ZZE ZZO @2DB8 CCHA CCHU CCHI CCHAA CCHEE CCHE CCHO @2DC0
  QYA QYU QYI QYAA QYEE QYE QYO @2DC8 KYA KYU KYI KYAA KYEE KYE KYO @2DD0 XYA XYU XYI XYAA XYEE XYE
  XYO @2DD8 GYA GYU GYI GYAA GYEE GYE GYO @2DE0 COMBINING_CYRILLIC_LETTER_: BE VE GHE DE ZHE ZE KA
  EL EM EN O PE ER ES TE HA TSE CHE SHA SHCHA FITA ES-TE A IE DJERV MONOGRAPH_UK YAT YU IOTIFIED_A
  LITTLE_YUS BIG_YUS IOTIFIED_BIG_YUS RIGHT_ANGLE_: SUBSTITUTION_MARKER DOTTED_SUBSTITUTION_MARKER
  : LEFT_SUBSTITUTION_BRACKET RIGHT_SUBSTITUTION_BRACKET LEFT_DOTTED_SUBSTITUTION_BRACKET
  RIGHT_DOTTED_SUBSTITUTION_BRACKET RAISED_: INTERPOLATION_MARKER DOTTED_INTERPOLATION_MARKER :
  DOTTED_TRANSPOSITION_MARKER LEFT_TRANSPOSITION_BRACKET RIGHT_TRANSPOSITION_BRACKET RAISED_SQUARE
  LEFT_RAISED_OMISSION_BRACKET RIGHT_RAISED_OMISSION_BRACKET EDITORIAL_CORONIS PARAGRAPHOS
  FORKED_PARAGRAPHOS REVERSED_FORKED_PARAGRAPHOS HYPODIASTOLE DOTTED_OBELOS DOWNWARDS_ANCORA
  UPWARDS_ANCORA DOTTED_RIGHT-POINTING_ANGLE DOUBLE_OBLIQUE_HYPHEN INVERTED_INTERROBANG PALM_BRANCH
  HYPHEN_WITH_DIAERESIS TILDE_WITH_RING_ABOVE LEFT_LOW_PARAPHRASE_BRACKET
  RIGHT_LOW_PARAPHRASE_BRACKET TILDE_WITH_DOT_: ABOVE BELOW : LEFT_VERTICAL_BAR_WITH_QUILL
  RIGHT_VERTICAL_BAR_WITH_QUILL TOP_: LEFT_HALF_BRACKET RIGHT_HALF_BRACKET BOTTOM_:
  LEFT_HALF_BRACKET RIGHT_HALF_BRACKET : LEFT_SIDEWAYS_U_BRACKET RIGHT_SIDEWAYS_U_BRACKET
  LEFT_DOUBLE_PARENTHESIS RIGHT_DOUBLE_PARENTHESIS TWO_DOTS_OVER_ONE_DOT_PUNCTUATION
  ONE_DOT_OVER_TWO_DOTS_PUNCTUATION SQUARED_FOUR_DOT_PUNCTUATION FIVE_DOT_MARK
  REVERSED_QUESTION_MARK VERTICAL_TILDE RING_POINT WORD_SEPARATOR_MIDDLE_DOT TURNED_COMMA RAISED_:
  DOT COMMA TURNED_: SEMICOLON DAGGER_WITH_: LEFT_GUARD RIGHT_GUARD : TURNED_DAGGER
  TOP_HALF_SECTION_SIGN TWO-EM_DASH THREE-EM_DASH STENOGRAPHIC_FULL_STOP VERTICAL_SIX_DOTS
  WIGGLY_VERTICAL_LINE CAPITULUM DOUBLE_HYPHEN REVERSED_COMMA DOUBLE_LOW-REVERSED-9_QUOTATION_MARK
  DASH_WITH_LEFT_UPTURN DOUBLE_SUSPENSION_MARK INVERTED_LOW_: KAVYKA KAVYKA_WITH_KAVYKA_ABOVE LOW_:
  KAVYKA KAVYKA_WITH_DOT : DOUBLE_STACKED_COMMA DOTTED_SOLIDUS TRIPLE_DAGGER MEDIEVAL_COMMA
  PARAGRAPHUS_MARK PUNCTUS_ELEVATUS_MARK CORNISH_VERSE_DIVIDER CROSS_PATTY_WITH_: RIGHT_CROSSBAR
  LEFT_CROSSBAR TIRONIAN_SIGN_CAPITAL_: ET MEDIEVAL_: EXCLAMATION_MARK QUESTION_MARK :
  LEFT_SQUARE_BRACKET_WITH_STROKE RIGHT_SQUARE_BRACKET_WITH_STROKE
  LEFT_SQUARE_BRACKET_WITH_DOUBLE_STROKE RIGHT_SQUARE_BRACKET_WITH_DOUBLE_STROKE TOP_HALF_:
  LEFT_PARENTHESIS RIGHT_PARENTHESIS BOTTOM_HALF_: LEFT_PARENTHESIS RIGHT_PARENTHESIS OBLIQUE_:
  HYPHEN @2E80 CJK_RADICAL_: REPEAT CLIFF SECOND_ONE SECOND_TWO SECOND_THREE PERSON BOX TABLE
  KNIFE_ONE KNIFE_TWO DIVINATION SEAL SMALL_ONE SMALL_TWO LAME_ONE LAME_TWO LAME_THREE LAME_FOUR
  SNAKE THREAD SNOUT_ONE SNOUT_TWO HEART_ONE HEART_TWO HAND RAP @2E9B CHOKE SUN MOON DEATH MOTHER
  CIVILIAN WATER_ONE WATER_TWO FIRE PAW_ONE PAW_TWO SIMPLIFIED_HALF_TREE_TRUNK COW DOG JADE
  BOLT_OF_CLOTH EYE SPIRIT_ONE SPIRIT_TWO BAMBOO SILK C-SIMPLIFIED_SILK NET_ONE NET_TWO NET_THREE
  NET_FOUR MESH SHEEP RAM EWE OLD BRUSH_ONE BRUSH_TWO MEAT MORTAR GRASS_ONE GRASS_TWO GRASS_THREE
  TIGER CLOTHES WEST_ONE WEST_TWO C-SIMPLIFIED_SEE SIMPLIFIED_HORN HORN C-SIMPLIFIED_SPEECH
  C-SIMPLIFIED_SHELL FOOT C-SIMPLIFIED_CART SIMPLIFIED_WALK WALK_ONE WALK_TWO CITY
  C-SIMPLIFIED_GOLD LONG_ONE LONG_TWO C-SIMPLIFIED_LONG C-SIMPLIFIED_GATE MOUND_ONE MOUND_TWO RAIN
  BLUE CJK_RADICAL_C-SIMPLIFIED_: TANNED_LEATHER LEAF WIND FLY CJK_RADICAL_: EAT_ONE EAT_TWO
  EAT_THREE C-SIMPLIFIED_EAT HEAD C-SIMPLIFIED_HORSE BONE GHOST C-SIMPLIFIED_FISH C-SIMPLIFIED_BIRD
  C-SIMPLIFIED_SALT SIMPLIFIED_WHEAT SIMPLIFIED_YELLOW C-SIMPLIFIED_FROG J-SIMPLIFIED_EVEN
  C-SIMPLIFIED_EVEN J-SIMPLIFIED_TOOTH C-SIMPLIFIED_TOOTH J-SIMPLIFIED_DRAGON C-SIMPLIFIED_DRAGON
  TURTLE J-SIMPLIFIED_TURTLE C-SIMPLIFIED_TURTLE @2F00 KANGXI_RADICAL_: ONE LINE DOT SLASH SECOND
  HOOK TWO LID MAN LEGS ENTER EIGHT DOWN_BOX COVER ICE TABLE OPEN_BOX KNIFE POWER WRAP SPOON
  RIGHT_OPEN_BOX HIDING_ENCLOSURE TEN DIVINATION SEAL CLIFF PRIVATE AGAIN MOUTH ENCLOSURE EARTH
  SCHOLAR GO GO_SLOWLY EVENING BIG WOMAN CHILD ROOF INCH SMALL LAME CORPSE SPROUT MOUNTAIN RIVER
  WORK ONESELF TURBAN DRY SHORT_THREAD DOTTED_CLIFF LONG_STRIDE TWO_HANDS SHOOT BOW SNOUT BRISTLE
  STEP HEART HALBERD DOOR HAND BRANCH RAP SCRIPT DIPPER AXE SQUARE NOT SUN SAY MOON TREE LACK STOP
  DEATH WEAPON DO_NOT COMPARE FUR CLAN STEAM WATER FIRE CLAW FATHER DOUBLE_X HALF_TREE_TRUNK SLICE
  FANG COW DOG PROFOUND JADE MELON TILE SWEET LIFE USE FIELD BOLT_OF_CLOTH SICKNESS DOTTED_TENT
  WHITE SKIN DISH EYE SPEAR ARROW STONE SPIRIT TRACK GRAIN CAVE STAND BAMBOO RICE SILK JAR NET
  SHEEP FEATHER OLD AND PLOW EAR BRUSH MEAT MINISTER SELF ARRIVE MORTAR TONGUE OPPOSE BOAT STOPPING
  COLOR GRASS TIGER INSECT BLOOD WALK_ENCLOSURE CLOTHES WEST SEE HORN SPEECH VALLEY BEAN PIG BADGER
  SHELL RED RUN FOOT BODY CART BITTER MORNING WALK CITY WINE DISTINGUISH VILLAGE GOLD LONG GATE
  MOUND SLAVE SHORT_TAILED_BIRD RAIN BLUE WRONG FACE LEATHER TANNED_LEATHER LEEK SOUND LEAF WIND
  FLY EAT HEAD FRAGRANT HORSE BONE TALL HAIR FIGHT SACRIFICIAL_WINE CAULDRON GHOST FISH BIRD SALT
  DEER WHEAT HEMP YELLOW MILLET BLACK EMBROIDERY FROG TRIPOD DRUM RAT NOSE EVEN TOOTH DRAGON TURTLE
  FLUTE @2FF0 IDEOGRAPHIC_DESCRIPTION_CHARACTER_: LEFT_TO_RIGHT ABOVE_TO_BELOW
  LEFT_TO_MIDDLE_AND_RIGHT ABOVE_TO_MIDDLE_AND_BELOW FULL_SURROUND SURROUND_FROM_ABOVE
  SURROUND_FROM_BELOW SURROUND_FROM_LEFT SURROUND_FROM_UPPER_LEFT SURROUND_FROM_UPPER_RIGHT
  SURROUND_FROM_LOWER_LEFT OVERLAID
"

end EntityScaffold.Text.CharacterName
