/-!
# Emoji names from `m` to `p`

The emoji whose names begin with a letter from `m` to `p`, in the order of their names.
-/

namespace Jet.Emoji

/-- The emoji by name. -/
def namesMtoP : List (String × String) :=
  [("m", "Ⓜ"), ("macau_sar_china", "🇲🇴"), ("macedonia", "🇲🇰"), ("madagascar", "🇲🇬"), ("mag", "🔍"),
    ("mag_right", "🔎"), ("mage", "🧙"), ("mage_dark_skin_tone", "🧙🏿"),
    ("mage_light_skin_tone", "🧙🏻"), ("mage_medium-dark_skin_tone", "🧙🏾"),
    ("mage_medium-light_skin_tone", "🧙🏼"), ("mage_medium_skin_tone", "🧙🏽"), ("magnet", "🧲"),
    ("magnifying_glass_tilted_left", "🔍"), ("magnifying_glass_tilted_right", "🔎"),
    ("mahjong", "🀄"), ("mahjong_red_dragon", "🀄"), ("mailbox", "📫"), ("mailbox_closed", "📪"),
    ("mailbox_with_mail", "📬"), ("mailbox_with_no_mail", "📭"), ("malawi", "🇲🇼"),
    ("malaysia", "🇲🇾"), ("maldives", "🇲🇻"), ("male_sign", "♂"), ("mali", "🇲🇱"), ("malta", "🇲🇹"),
    ("man", "👨"), ("man_and_woman_holding_hands", "👫"), ("man_artist", "👨‍🎨"),
    ("man_artist_dark_skin_tone", "👨🏿‍🎨"), ("man_artist_light_skin_tone", "👨🏻‍🎨"),
    ("man_artist_medium-dark_skin_tone", "👨🏾‍🎨"), ("man_artist_medium-light_skin_tone", "👨🏼‍🎨"),
    ("man_artist_medium_skin_tone", "👨🏽‍🎨"), ("man_astronaut", "👨‍🚀"),
    ("man_astronaut_dark_skin_tone", "👨🏿‍🚀"), ("man_astronaut_light_skin_tone", "👨🏻‍🚀"),
    ("man_astronaut_medium-dark_skin_tone", "👨🏾‍🚀"),
    ("man_astronaut_medium-light_skin_tone", "👨🏼‍🚀"), ("man_astronaut_medium_skin_tone", "👨🏽‍🚀"),
    ("man_biking", "🚴‍♂️"), ("man_biking_dark_skin_tone", "🚴🏿‍♂️"),
    ("man_biking_light_skin_tone", "🚴🏻‍♂️"), ("man_biking_medium-dark_skin_tone", "🚴🏾‍♂️"),
    ("man_biking_medium-light_skin_tone", "🚴🏼‍♂️"), ("man_biking_medium_skin_tone", "🚴🏽‍♂️"),
    ("man_bouncing_ball", "⛹️‍♂️"), ("man_bouncing_ball_dark_skin_tone", "⛹🏿‍♂️"),
    ("man_bouncing_ball_light_skin_tone", "⛹🏻‍♂️"),
    ("man_bouncing_ball_medium-dark_skin_tone", "⛹🏾‍♂️"),
    ("man_bouncing_ball_medium-light_skin_tone", "⛹🏼‍♂️"),
    ("man_bouncing_ball_medium_skin_tone", "⛹🏽‍♂️"), ("man_bowing", "🙇‍♂️"),
    ("man_bowing_dark_skin_tone", "🙇🏿‍♂️"), ("man_bowing_light_skin_tone", "🙇🏻‍♂️"),
    ("man_bowing_medium-dark_skin_tone", "🙇🏾‍♂️"), ("man_bowing_medium-light_skin_tone", "🙇🏼‍♂️"),
    ("man_bowing_medium_skin_tone", "🙇🏽‍♂️"), ("man_cartwheeling", "🤸‍♂️"),
    ("man_cartwheeling_dark_skin_tone", "🤸🏿‍♂️"), ("man_cartwheeling_light_skin_tone", "🤸🏻‍♂️"),
    ("man_cartwheeling_medium-dark_skin_tone", "🤸🏾‍♂️"),
    ("man_cartwheeling_medium-light_skin_tone", "🤸🏼‍♂️"),
    ("man_cartwheeling_medium_skin_tone", "🤸🏽‍♂️"), ("man_climbing", "🧗‍♂️"),
    ("man_climbing_dark_skin_tone", "🧗🏿‍♂️"), ("man_climbing_light_skin_tone", "🧗🏻‍♂️"),
    ("man_climbing_medium-dark_skin_tone", "🧗🏾‍♂️"),
    ("man_climbing_medium-light_skin_tone", "🧗🏼‍♂️"), ("man_climbing_medium_skin_tone", "🧗🏽‍♂️"),
    ("man_construction_worker", "👷‍♂️"), ("man_construction_worker_dark_skin_tone", "👷🏿‍♂️"),
    ("man_construction_worker_light_skin_tone", "👷🏻‍♂️"),
    ("man_construction_worker_medium-dark_skin_tone", "👷🏾‍♂️"),
    ("man_construction_worker_medium-light_skin_tone", "👷🏼‍♂️"),
    ("man_construction_worker_medium_skin_tone", "👷🏽‍♂️"), ("man_cook", "👨‍🍳"),
    ("man_cook_dark_skin_tone", "👨🏿‍🍳"), ("man_cook_light_skin_tone", "👨🏻‍🍳"),
    ("man_cook_medium-dark_skin_tone", "👨🏾‍🍳"), ("man_cook_medium-light_skin_tone", "👨🏼‍🍳"),
    ("man_cook_medium_skin_tone", "👨🏽‍🍳"), ("man_dancing", "🕺"),
    ("man_dancing_dark_skin_tone", "🕺🏿"), ("man_dancing_light_skin_tone", "🕺🏻"),
    ("man_dancing_medium-dark_skin_tone", "🕺🏾"), ("man_dancing_medium-light_skin_tone", "🕺🏼"),
    ("man_dancing_medium_skin_tone", "🕺🏽"), ("man_dark_skin_tone", "👨🏿"),
    ("man_detective", "🕵️‍♂️"), ("man_detective_dark_skin_tone", "🕵🏿‍♂️"),
    ("man_detective_light_skin_tone", "🕵🏻‍♂️"), ("man_detective_medium-dark_skin_tone", "🕵🏾‍♂️"),
    ("man_detective_medium-light_skin_tone", "🕵🏼‍♂️"), ("man_detective_medium_skin_tone", "🕵🏽‍♂️"),
    ("man_elf", "🧝‍♂️"), ("man_elf_dark_skin_tone", "🧝🏿‍♂️"), ("man_elf_light_skin_tone", "🧝🏻‍♂️"),
    ("man_elf_medium-dark_skin_tone", "🧝🏾‍♂️"), ("man_elf_medium-light_skin_tone", "🧝🏼‍♂️"),
    ("man_elf_medium_skin_tone", "🧝🏽‍♂️"), ("man_facepalming", "🤦‍♂️"),
    ("man_facepalming_dark_skin_tone", "🤦🏿‍♂️"), ("man_facepalming_light_skin_tone", "🤦🏻‍♂️"),
    ("man_facepalming_medium-dark_skin_tone", "🤦🏾‍♂️"),
    ("man_facepalming_medium-light_skin_tone", "🤦🏼‍♂️"),
    ("man_facepalming_medium_skin_tone", "🤦🏽‍♂️"), ("man_factory_worker", "👨‍🏭"),
    ("man_factory_worker_dark_skin_tone", "👨🏿‍🏭"), ("man_factory_worker_light_skin_tone", "👨🏻‍🏭"),
    ("man_factory_worker_medium-dark_skin_tone", "👨🏾‍🏭"),
    ("man_factory_worker_medium-light_skin_tone", "👨🏼‍🏭"),
    ("man_factory_worker_medium_skin_tone", "👨🏽‍🏭"), ("man_fairy", "🧚‍♂️"),
    ("man_fairy_dark_skin_tone", "🧚🏿‍♂️"), ("man_fairy_light_skin_tone", "🧚🏻‍♂️"),
    ("man_fairy_medium-dark_skin_tone", "🧚🏾‍♂️"), ("man_fairy_medium-light_skin_tone", "🧚🏼‍♂️"),
    ("man_fairy_medium_skin_tone", "🧚🏽‍♂️"), ("man_farmer", "👨‍🌾"),
    ("man_farmer_dark_skin_tone", "👨🏿‍🌾"), ("man_farmer_light_skin_tone", "👨🏻‍🌾"),
    ("man_farmer_medium-dark_skin_tone", "👨🏾‍🌾"), ("man_farmer_medium-light_skin_tone", "👨🏼‍🌾"),
    ("man_farmer_medium_skin_tone", "👨🏽‍🌾"), ("man_firefighter", "👨‍🚒"),
    ("man_firefighter_dark_skin_tone", "👨🏿‍🚒"), ("man_firefighter_light_skin_tone", "👨🏻‍🚒"),
    ("man_firefighter_medium-dark_skin_tone", "👨🏾‍🚒"),
    ("man_firefighter_medium-light_skin_tone", "👨🏼‍🚒"),
    ("man_firefighter_medium_skin_tone", "👨🏽‍🚒"), ("man_frowning", "🙍‍♂️"),
    ("man_frowning_dark_skin_tone", "🙍🏿‍♂️"), ("man_frowning_light_skin_tone", "🙍🏻‍♂️"),
    ("man_frowning_medium-dark_skin_tone", "🙍🏾‍♂️"),
    ("man_frowning_medium-light_skin_tone", "🙍🏼‍♂️"), ("man_frowning_medium_skin_tone", "🙍🏽‍♂️"),
    ("man_genie", "🧞‍♂️"), ("man_gesturing_no", "🙅‍♂️"),
    ("man_gesturing_no_dark_skin_tone", "🙅🏿‍♂️"), ("man_gesturing_no_light_skin_tone", "🙅🏻‍♂️"),
    ("man_gesturing_no_medium-dark_skin_tone", "🙅🏾‍♂️"),
    ("man_gesturing_no_medium-light_skin_tone", "🙅🏼‍♂️"),
    ("man_gesturing_no_medium_skin_tone", "🙅🏽‍♂️"), ("man_gesturing_ok", "🙆‍♂️"),
    ("man_gesturing_ok_dark_skin_tone", "🙆🏿‍♂️"), ("man_gesturing_ok_light_skin_tone", "🙆🏻‍♂️"),
    ("man_gesturing_ok_medium-dark_skin_tone", "🙆🏾‍♂️"),
    ("man_gesturing_ok_medium-light_skin_tone", "🙆🏼‍♂️"),
    ("man_gesturing_ok_medium_skin_tone", "🙆🏽‍♂️"), ("man_getting_haircut", "💇‍♂️"),
    ("man_getting_haircut_dark_skin_tone", "💇🏿‍♂️"),
    ("man_getting_haircut_light_skin_tone", "💇🏻‍♂️"),
    ("man_getting_haircut_medium-dark_skin_tone", "💇🏾‍♂️"),
    ("man_getting_haircut_medium-light_skin_tone", "💇🏼‍♂️"),
    ("man_getting_haircut_medium_skin_tone", "💇🏽‍♂️"), ("man_getting_massage", "💆‍♂️"),
    ("man_getting_massage_dark_skin_tone", "💆🏿‍♂️"),
    ("man_getting_massage_light_skin_tone", "💆🏻‍♂️"),
    ("man_getting_massage_medium-dark_skin_tone", "💆🏾‍♂️"),
    ("man_getting_massage_medium-light_skin_tone", "💆🏼‍♂️"),
    ("man_getting_massage_medium_skin_tone", "💆🏽‍♂️"), ("man_golfing", "🏌️‍♂️"),
    ("man_golfing_dark_skin_tone", "🏌🏿‍♂️"), ("man_golfing_light_skin_tone", "🏌🏻‍♂️"),
    ("man_golfing_medium-dark_skin_tone", "🏌🏾‍♂️"),
    ("man_golfing_medium-light_skin_tone", "🏌🏼‍♂️"), ("man_golfing_medium_skin_tone", "🏌🏽‍♂️"),
    ("man_guard", "💂‍♂️"), ("man_guard_dark_skin_tone", "💂🏿‍♂️"),
    ("man_guard_light_skin_tone", "💂🏻‍♂️"), ("man_guard_medium-dark_skin_tone", "💂🏾‍♂️"),
    ("man_guard_medium-light_skin_tone", "💂🏼‍♂️"), ("man_guard_medium_skin_tone", "💂🏽‍♂️"),
    ("man_health_worker", "👨‍⚕️"), ("man_health_worker_dark_skin_tone", "👨🏿‍⚕️"),
    ("man_health_worker_light_skin_tone", "👨🏻‍⚕️"),
    ("man_health_worker_medium-dark_skin_tone", "👨🏾‍⚕️"),
    ("man_health_worker_medium-light_skin_tone", "👨🏼‍⚕️"),
    ("man_health_worker_medium_skin_tone", "👨🏽‍⚕️"), ("man_in_business_suit_levitating", "🕴"),
    ("man_in_lotus_position", "🧘‍♂️"), ("man_in_lotus_position_dark_skin_tone", "🧘🏿‍♂️"),
    ("man_in_lotus_position_light_skin_tone", "🧘🏻‍♂️"),
    ("man_in_lotus_position_medium-dark_skin_tone", "🧘🏾‍♂️"),
    ("man_in_lotus_position_medium-light_skin_tone", "🧘🏼‍♂️"),
    ("man_in_lotus_position_medium_skin_tone", "🧘🏽‍♂️"), ("man_in_manual_wheelchair", "👨‍🦽"),
    ("man_in_motorized_wheelchair", "👨‍🦼"), ("man_in_steamy_room", "🧖‍♂️"),
    ("man_in_steamy_room_dark_skin_tone", "🧖🏿‍♂️"),
    ("man_in_steamy_room_light_skin_tone", "🧖🏻‍♂️"),
    ("man_in_steamy_room_medium-dark_skin_tone", "🧖🏾‍♂️"),
    ("man_in_steamy_room_medium-light_skin_tone", "🧖🏼‍♂️"),
    ("man_in_steamy_room_medium_skin_tone", "🧖🏽‍♂️"), ("man_in_suit_levitating", "🕴"),
    ("man_in_suit_levitating_dark_skin_tone", "🕴🏿"),
    ("man_in_suit_levitating_light_skin_tone", "🕴🏻"),
    ("man_in_suit_levitating_medium-dark_skin_tone", "🕴🏾"),
    ("man_in_suit_levitating_medium-light_skin_tone", "🕴🏼"),
    ("man_in_suit_levitating_medium_skin_tone", "🕴🏽"), ("man_in_tuxedo", "🤵"),
    ("man_in_tuxedo_dark_skin_tone", "🤵🏿"), ("man_in_tuxedo_light_skin_tone", "🤵🏻"),
    ("man_in_tuxedo_medium-dark_skin_tone", "🤵🏾"), ("man_in_tuxedo_medium-light_skin_tone", "🤵🏼"),
    ("man_in_tuxedo_medium_skin_tone", "🤵🏽"), ("man_judge", "👨‍⚖️"),
    ("man_judge_dark_skin_tone", "👨🏿‍⚖️"), ("man_judge_light_skin_tone", "👨🏻‍⚖️"),
    ("man_judge_medium-dark_skin_tone", "👨🏾‍⚖️"), ("man_judge_medium-light_skin_tone", "👨🏼‍⚖️"),
    ("man_judge_medium_skin_tone", "👨🏽‍⚖️"), ("man_juggling", "🤹‍♂️"),
    ("man_juggling_dark_skin_tone", "🤹🏿‍♂️"), ("man_juggling_light_skin_tone", "🤹🏻‍♂️"),
    ("man_juggling_medium-dark_skin_tone", "🤹🏾‍♂️"),
    ("man_juggling_medium-light_skin_tone", "🤹🏼‍♂️"), ("man_juggling_medium_skin_tone", "🤹🏽‍♂️"),
    ("man_lifting_weights", "🏋️‍♂️"), ("man_lifting_weights_dark_skin_tone", "🏋🏿‍♂️"),
    ("man_lifting_weights_light_skin_tone", "🏋🏻‍♂️"),
    ("man_lifting_weights_medium-dark_skin_tone", "🏋🏾‍♂️"),
    ("man_lifting_weights_medium-light_skin_tone", "🏋🏼‍♂️"),
    ("man_lifting_weights_medium_skin_tone", "🏋🏽‍♂️"), ("man_light_skin_tone", "👨🏻"),
    ("man_mage", "🧙‍♂️"), ("man_mage_dark_skin_tone", "🧙🏿‍♂️"),
    ("man_mage_light_skin_tone", "🧙🏻‍♂️"), ("man_mage_medium-dark_skin_tone", "🧙🏾‍♂️"),
    ("man_mage_medium-light_skin_tone", "🧙🏼‍♂️"), ("man_mage_medium_skin_tone", "🧙🏽‍♂️"),
    ("man_mechanic", "👨‍🔧"), ("man_mechanic_dark_skin_tone", "👨🏿‍🔧"),
    ("man_mechanic_light_skin_tone", "👨🏻‍🔧"), ("man_mechanic_medium-dark_skin_tone", "👨🏾‍🔧"),
    ("man_mechanic_medium-light_skin_tone", "👨🏼‍🔧"), ("man_mechanic_medium_skin_tone", "👨🏽‍🔧"),
    ("man_medium-dark_skin_tone", "👨🏾"), ("man_medium-light_skin_tone", "👨🏼"),
    ("man_medium_skin_tone", "👨🏽"), ("man_mountain_biking", "🚵‍♂️"),
    ("man_mountain_biking_dark_skin_tone", "🚵🏿‍♂️"),
    ("man_mountain_biking_light_skin_tone", "🚵🏻‍♂️"),
    ("man_mountain_biking_medium-dark_skin_tone", "🚵🏾‍♂️"),
    ("man_mountain_biking_medium-light_skin_tone", "🚵🏼‍♂️"),
    ("man_mountain_biking_medium_skin_tone", "🚵🏽‍♂️"), ("man_office_worker", "👨‍💼"),
    ("man_office_worker_dark_skin_tone", "👨🏿‍💼"), ("man_office_worker_light_skin_tone", "👨🏻‍💼"),
    ("man_office_worker_medium-dark_skin_tone", "👨🏾‍💼"),
    ("man_office_worker_medium-light_skin_tone", "👨🏼‍💼"),
    ("man_office_worker_medium_skin_tone", "👨🏽‍💼"), ("man_pilot", "👨‍✈️"),
    ("man_pilot_dark_skin_tone", "👨🏿‍✈️"), ("man_pilot_light_skin_tone", "👨🏻‍✈️"),
    ("man_pilot_medium-dark_skin_tone", "👨🏾‍✈️"), ("man_pilot_medium-light_skin_tone", "👨🏼‍✈️"),
    ("man_pilot_medium_skin_tone", "👨🏽‍✈️"), ("man_playing_handball", "🤾‍♂️"),
    ("man_playing_handball_dark_skin_tone", "🤾🏿‍♂️"),
    ("man_playing_handball_light_skin_tone", "🤾🏻‍♂️"),
    ("man_playing_handball_medium-dark_skin_tone", "🤾🏾‍♂️"),
    ("man_playing_handball_medium-light_skin_tone", "🤾🏼‍♂️"),
    ("man_playing_handball_medium_skin_tone", "🤾🏽‍♂️"), ("man_playing_water_polo", "🤽‍♂️"),
    ("man_playing_water_polo_dark_skin_tone", "🤽🏿‍♂️"),
    ("man_playing_water_polo_light_skin_tone", "🤽🏻‍♂️"),
    ("man_playing_water_polo_medium-dark_skin_tone", "🤽🏾‍♂️"),
    ("man_playing_water_polo_medium-light_skin_tone", "🤽🏼‍♂️"),
    ("man_playing_water_polo_medium_skin_tone", "🤽🏽‍♂️"), ("man_police_officer", "👮‍♂️"),
    ("man_police_officer_dark_skin_tone", "👮🏿‍♂️"),
    ("man_police_officer_light_skin_tone", "👮🏻‍♂️"),
    ("man_police_officer_medium-dark_skin_tone", "👮🏾‍♂️"),
    ("man_police_officer_medium-light_skin_tone", "👮🏼‍♂️"),
    ("man_police_officer_medium_skin_tone", "👮🏽‍♂️"), ("man_pouting", "🙎‍♂️"),
    ("man_pouting_dark_skin_tone", "🙎🏿‍♂️"), ("man_pouting_light_skin_tone", "🙎🏻‍♂️"),
    ("man_pouting_medium-dark_skin_tone", "🙎🏾‍♂️"),
    ("man_pouting_medium-light_skin_tone", "🙎🏼‍♂️"), ("man_pouting_medium_skin_tone", "🙎🏽‍♂️"),
    ("man_raising_hand", "🙋‍♂️"), ("man_raising_hand_dark_skin_tone", "🙋🏿‍♂️"),
    ("man_raising_hand_light_skin_tone", "🙋🏻‍♂️"),
    ("man_raising_hand_medium-dark_skin_tone", "🙋🏾‍♂️"),
    ("man_raising_hand_medium-light_skin_tone", "🙋🏼‍♂️"),
    ("man_raising_hand_medium_skin_tone", "🙋🏽‍♂️"), ("man_rowing_boat", "🚣‍♂️"),
    ("man_rowing_boat_dark_skin_tone", "🚣🏿‍♂️"), ("man_rowing_boat_light_skin_tone", "🚣🏻‍♂️"),
    ("man_rowing_boat_medium-dark_skin_tone", "🚣🏾‍♂️"),
    ("man_rowing_boat_medium-light_skin_tone", "🚣🏼‍♂️"),
    ("man_rowing_boat_medium_skin_tone", "🚣🏽‍♂️"), ("man_running", "🏃‍♂️"),
    ("man_running_dark_skin_tone", "🏃🏿‍♂️"), ("man_running_light_skin_tone", "🏃🏻‍♂️"),
    ("man_running_medium-dark_skin_tone", "🏃🏾‍♂️"),
    ("man_running_medium-light_skin_tone", "🏃🏼‍♂️"), ("man_running_medium_skin_tone", "🏃🏽‍♂️"),
    ("man_scientist", "👨‍🔬"), ("man_scientist_dark_skin_tone", "👨🏿‍🔬"),
    ("man_scientist_light_skin_tone", "👨🏻‍🔬"), ("man_scientist_medium-dark_skin_tone", "👨🏾‍🔬"),
    ("man_scientist_medium-light_skin_tone", "👨🏼‍🔬"), ("man_scientist_medium_skin_tone", "👨🏽‍🔬"),
    ("man_shrugging", "🤷‍♂️"), ("man_shrugging_dark_skin_tone", "🤷🏿‍♂️"),
    ("man_shrugging_light_skin_tone", "🤷🏻‍♂️"), ("man_shrugging_medium-dark_skin_tone", "🤷🏾‍♂️"),
    ("man_shrugging_medium-light_skin_tone", "🤷🏼‍♂️"), ("man_shrugging_medium_skin_tone", "🤷🏽‍♂️"),
    ("man_singer", "👨‍🎤"), ("man_singer_dark_skin_tone", "👨🏿‍🎤"),
    ("man_singer_light_skin_tone", "👨🏻‍🎤"), ("man_singer_medium-dark_skin_tone", "👨🏾‍🎤"),
    ("man_singer_medium-light_skin_tone", "👨🏼‍🎤"), ("man_singer_medium_skin_tone", "👨🏽‍🎤"),
    ("man_student", "👨‍🎓"), ("man_student_dark_skin_tone", "👨🏿‍🎓"),
    ("man_student_light_skin_tone", "👨🏻‍🎓"), ("man_student_medium-dark_skin_tone", "👨🏾‍🎓"),
    ("man_student_medium-light_skin_tone", "👨🏼‍🎓"), ("man_student_medium_skin_tone", "👨🏽‍🎓"),
    ("man_surfing", "🏄‍♂️"), ("man_surfing_dark_skin_tone", "🏄🏿‍♂️"),
    ("man_surfing_light_skin_tone", "🏄🏻‍♂️"), ("man_surfing_medium-dark_skin_tone", "🏄🏾‍♂️"),
    ("man_surfing_medium-light_skin_tone", "🏄🏼‍♂️"), ("man_surfing_medium_skin_tone", "🏄🏽‍♂️"),
    ("man_swimming", "🏊‍♂️"), ("man_swimming_dark_skin_tone", "🏊🏿‍♂️"),
    ("man_swimming_light_skin_tone", "🏊🏻‍♂️"), ("man_swimming_medium-dark_skin_tone", "🏊🏾‍♂️"),
    ("man_swimming_medium-light_skin_tone", "🏊🏼‍♂️"), ("man_swimming_medium_skin_tone", "🏊🏽‍♂️"),
    ("man_teacher", "👨‍🏫"), ("man_teacher_dark_skin_tone", "👨🏿‍🏫"),
    ("man_teacher_light_skin_tone", "👨🏻‍🏫"), ("man_teacher_medium-dark_skin_tone", "👨🏾‍🏫"),
    ("man_teacher_medium-light_skin_tone", "👨🏼‍🏫"), ("man_teacher_medium_skin_tone", "👨🏽‍🏫"),
    ("man_technologist", "👨‍💻"), ("man_technologist_dark_skin_tone", "👨🏿‍💻"),
    ("man_technologist_light_skin_tone", "👨🏻‍💻"),
    ("man_technologist_medium-dark_skin_tone", "👨🏾‍💻"),
    ("man_technologist_medium-light_skin_tone", "👨🏼‍💻"),
    ("man_technologist_medium_skin_tone", "👨🏽‍💻"), ("man_tipping_hand", "💁‍♂️"),
    ("man_tipping_hand_dark_skin_tone", "💁🏿‍♂️"), ("man_tipping_hand_light_skin_tone", "💁🏻‍♂️"),
    ("man_tipping_hand_medium-dark_skin_tone", "💁🏾‍♂️"),
    ("man_tipping_hand_medium-light_skin_tone", "💁🏼‍♂️"),
    ("man_tipping_hand_medium_skin_tone", "💁🏽‍♂️"), ("man_vampire", "🧛‍♂️"),
    ("man_vampire_dark_skin_tone", "🧛🏿‍♂️"), ("man_vampire_light_skin_tone", "🧛🏻‍♂️"),
    ("man_vampire_medium-dark_skin_tone", "🧛🏾‍♂️"),
    ("man_vampire_medium-light_skin_tone", "🧛🏼‍♂️"), ("man_vampire_medium_skin_tone", "🧛🏽‍♂️"),
    ("man_walking", "🚶‍♂️"), ("man_walking_dark_skin_tone", "🚶🏿‍♂️"),
    ("man_walking_light_skin_tone", "🚶🏻‍♂️"), ("man_walking_medium-dark_skin_tone", "🚶🏾‍♂️"),
    ("man_walking_medium-light_skin_tone", "🚶🏼‍♂️"), ("man_walking_medium_skin_tone", "🚶🏽‍♂️"),
    ("man_wearing_turban", "👳‍♂️"), ("man_wearing_turban_dark_skin_tone", "👳🏿‍♂️"),
    ("man_wearing_turban_light_skin_tone", "👳🏻‍♂️"),
    ("man_wearing_turban_medium-dark_skin_tone", "👳🏾‍♂️"),
    ("man_wearing_turban_medium-light_skin_tone", "👳🏼‍♂️"),
    ("man_wearing_turban_medium_skin_tone", "👳🏽‍♂️"), ("man_with_chinese_cap", "👲"),
    ("man_with_chinese_cap_dark_skin_tone", "👲🏿"), ("man_with_chinese_cap_light_skin_tone", "👲🏻"),
    ("man_with_chinese_cap_medium-dark_skin_tone", "👲🏾"),
    ("man_with_chinese_cap_medium-light_skin_tone", "👲🏼"),
    ("man_with_chinese_cap_medium_skin_tone", "👲🏽"), ("man_with_gua_pi_mao", "👲"),
    ("man_with_probing_cane", "👨‍🦯"), ("man_with_turban", "👳"), ("man_zombie", "🧟‍♂️"),
    ("mango", "🥭"), ("mans_shoe", "👞"), ("mantelpiece_clock", "🕰"), ("manual_wheelchair", "🦽"),
    ("man’s_shoe", "👞"), ("map_of_japan", "🗾"), ("maple_leaf", "🍁"), ("marshall_islands", "🇲🇭"),
    ("martial_arts_uniform", "🥋"), ("martinique", "🇲🇶"), ("mask", "😷"), ("massage", "💆"),
    ("mate", "🧉"), ("mauritania", "🇲🇷"), ("mauritius", "🇲🇺"), ("mayotte", "🇾🇹"),
    ("meat_on_bone", "🍖"), ("mechanical_arm", "🦾"), ("mechanical_leg", "🦿"),
    ("medical_symbol", "⚕"), ("medium_dark_skin_tone", "🏾"), ("medium_light_skin_tone", "🏼"),
    ("medium_skin_tone", "🏽"), ("mega", "📣"), ("megaphone", "📣"), ("melon", "🍈"), ("memo", "📝"),
    ("men_with_bunny_ears", "👯‍♂️"), ("men_wrestling", "🤼‍♂️"), ("menorah", "🕎"),
    ("menorah_with_nine_branches", "🕎"), ("mens", "🚹"), ("men’s_room", "🚹"), ("mermaid", "🧜‍♀️"),
    ("mermaid_dark_skin_tone", "🧜🏿‍♀️"), ("mermaid_light_skin_tone", "🧜🏻‍♀️"),
    ("mermaid_medium-dark_skin_tone", "🧜🏾‍♀️"), ("mermaid_medium-light_skin_tone", "🧜🏼‍♀️"),
    ("mermaid_medium_skin_tone", "🧜🏽‍♀️"), ("merman", "🧜‍♂️"), ("merman_dark_skin_tone", "🧜🏿‍♂️"),
    ("merman_light_skin_tone", "🧜🏻‍♂️"), ("merman_medium-dark_skin_tone", "🧜🏾‍♂️"),
    ("merman_medium-light_skin_tone", "🧜🏼‍♂️"), ("merman_medium_skin_tone", "🧜🏽‍♂️"),
    ("merperson", "🧜"), ("merperson_dark_skin_tone", "🧜🏿"), ("merperson_light_skin_tone", "🧜🏻"),
    ("merperson_medium-dark_skin_tone", "🧜🏾"), ("merperson_medium-light_skin_tone", "🧜🏼"),
    ("merperson_medium_skin_tone", "🧜🏽"), ("metro", "🚇"), ("mexico", "🇲🇽"), ("microbe", "🦠"),
    ("micronesia", "🇫🇲"), ("microphone", "🎤"), ("microscope", "🔬"), ("middle_finger", "🖕"),
    ("middle_finger_dark_skin_tone", "🖕🏿"), ("middle_finger_light_skin_tone", "🖕🏻"),
    ("middle_finger_medium-dark_skin_tone", "🖕🏾"), ("middle_finger_medium-light_skin_tone", "🖕🏼"),
    ("middle_finger_medium_skin_tone", "🖕🏽"), ("military_medal", "🎖"), ("milky_way", "🌌"),
    ("minibus", "🚐"), ("minidisc", "💽"), ("moai", "🗿"), ("mobile_phone", "📱"),
    ("mobile_phone_off", "📴"), ("mobile_phone_with_arrow", "📲"), ("moldova", "🇲🇩"),
    ("monaco", "🇲🇨"), ("money-mouth_face", "🤑"), ("money__mouth_face", "🤑"), ("money_bag", "💰"),
    ("money_with_wings", "💸"), ("moneybag", "💰"), ("mongolia", "🇲🇳"), ("monkey", "🐒"),
    ("monkey_face", "🐵"), ("monorail", "🚝"), ("montenegro", "🇲🇪"), ("montserrat", "🇲🇸"),
    ("moon", "🌔"), ("moon_cake", "🥮"), ("moon_viewing_ceremony", "🎑"), ("morocco", "🇲🇦"),
    ("mortar_board", "🎓"), ("mosque", "🕌"), ("mosquito", "🦟"), ("motor_boat", "🛥"),
    ("motor_scooter", "🛵"), ("motorcycle", "🏍"), ("motorized_wheelchair", "🦼"), ("motorway", "🛣"),
    ("mount_fuji", "🗻"), ("mountain", "⛰"), ("mountain_bicyclist", "🚵"),
    ("mountain_cableway", "🚠"), ("mountain_railway", "🚞"), ("mouse", "🐭"), ("mouse2", "🐁"),
    ("mouse_face", "🐭"), ("mouth", "👄"), ("movie_camera", "🎥"), ("moyai", "🗿"),
    ("mozambique", "🇲🇿"), ("mrs._claus", "🤶"), ("mrs._claus_dark_skin_tone", "🤶🏿"),
    ("mrs._claus_light_skin_tone", "🤶🏻"), ("mrs._claus_medium-dark_skin_tone", "🤶🏾"),
    ("mrs._claus_medium-light_skin_tone", "🤶🏼"), ("mrs._claus_medium_skin_tone", "🤶🏽"),
    ("muscle", "💪"), ("mushroom", "🍄"), ("musical_keyboard", "🎹"), ("musical_note", "🎵"),
    ("musical_notes", "🎶"), ("musical_score", "🎼"), ("mute", "🔇"), ("muted_speaker", "🔇"),
    ("myanmar_(burma)", "🇲🇲"), ("nail_care", "💅"), ("nail_polish", "💅"),
    ("nail_polish_dark_skin_tone", "💅🏿"), ("nail_polish_light_skin_tone", "💅🏻"),
    ("nail_polish_medium-dark_skin_tone", "💅🏾"), ("nail_polish_medium-light_skin_tone", "💅🏼"),
    ("nail_polish_medium_skin_tone", "💅🏽"), ("name_badge", "📛"), ("namibia", "🇳🇦"),
    ("national_park", "🏞"), ("nauru", "🇳🇷"), ("nauseated_face", "🤢"), ("nazar_amulet", "🧿"),
    ("necktie", "👔"), ("negative_squared_cross_mark", "❎"), ("nepal", "🇳🇵"), ("nerd_face", "🤓"),
    ("netherlands", "🇳🇱"), ("neutral_face", "😐"), ("new", "🆕"), ("new_button", "🆕"),
    ("new_caledonia", "🇳🇨"), ("new_moon", "🌑"), ("new_moon_face", "🌚"),
    ("new_moon_with_face", "🌚"), ("new_zealand", "🇳🇿"), ("newspaper", "📰"),
    ("next_track_button", "⏭"), ("ng", "🆖"), ("ng_button", "🆖"), ("nicaragua", "🇳🇮"),
    ("niger", "🇳🇪"), ("nigeria", "🇳🇬"), ("night_with_stars", "🌃"), ("nine", "9️⃣"),
    ("nine-thirty", "🕤"), ("nine_o’clock", "🕘"), ("niue", "🇳🇺"), ("no_bell", "🔕"),
    ("no_bicycles", "🚳"), ("no_entry", "⛔"), ("no_entry_sign", "🚫"), ("no_good", "🙅"),
    ("no_littering", "🚯"), ("no_mobile_phones", "📵"), ("no_mouth", "😶"),
    ("no_one_under_eighteen", "🔞"), ("no_pedestrians", "🚷"), ("no_smoking", "🚭"),
    ("non-potable_water", "🚱"), ("non__potable_water", "🚱"), ("norfolk_island", "🇳🇫"),
    ("north_korea", "🇰🇵"), ("northern_mariana_islands", "🇲🇵"), ("norway", "🇳🇴"), ("nose", "👃"),
    ("nose_dark_skin_tone", "👃🏿"), ("nose_light_skin_tone", "👃🏻"),
    ("nose_medium-dark_skin_tone", "👃🏾"), ("nose_medium-light_skin_tone", "👃🏼"),
    ("nose_medium_skin_tone", "👃🏽"), ("notebook", "📓"), ("notebook_with_decorative_cover", "📔"),
    ("notes", "🎶"), ("nut_and_bolt", "🔩"), ("o", "⭕"), ("o2", "🅾"), ("o_button_(blood_type)", "🅾"),
    ("ocean", "🌊"), ("octopus", "🐙"), ("oden", "🍢"), ("office", "🏢"), ("office_building", "🏢"),
    ("ogre", "👹"), ("oil_drum", "🛢"), ("ok", "🆗"), ("ok_button", "🆗"), ("ok_hand", "👌"),
    ("ok_hand_dark_skin_tone", "👌🏿"), ("ok_hand_light_skin_tone", "👌🏻"),
    ("ok_hand_medium-dark_skin_tone", "👌🏾"), ("ok_hand_medium-light_skin_tone", "👌🏼"),
    ("ok_hand_medium_skin_tone", "👌🏽"), ("ok_woman", "🙆"), ("old_key", "🗝"), ("old_man", "👴"),
    ("old_man_dark_skin_tone", "👴🏿"), ("old_man_light_skin_tone", "👴🏻"),
    ("old_man_medium-dark_skin_tone", "👴🏾"), ("old_man_medium-light_skin_tone", "👴🏼"),
    ("old_man_medium_skin_tone", "👴🏽"), ("old_woman", "👵"), ("old_woman_dark_skin_tone", "👵🏿"),
    ("old_woman_light_skin_tone", "👵🏻"), ("old_woman_medium-dark_skin_tone", "👵🏾"),
    ("old_woman_medium-light_skin_tone", "👵🏼"), ("old_woman_medium_skin_tone", "👵🏽"),
    ("older_adult", "🧓"), ("older_adult_dark_skin_tone", "🧓🏿"),
    ("older_adult_light_skin_tone", "🧓🏻"), ("older_adult_medium-dark_skin_tone", "🧓🏾"),
    ("older_adult_medium-light_skin_tone", "🧓🏼"), ("older_adult_medium_skin_tone", "🧓🏽"),
    ("older_man", "👴"), ("older_woman", "👵"), ("om", "🕉"), ("om_symbol", "🕉"), ("oman", "🇴🇲"),
    ("on", "🔛"), ("on!_arrow", "🔛"), ("oncoming_automobile", "🚘"), ("oncoming_bus", "🚍"),
    ("oncoming_fist", "👊"), ("oncoming_fist_dark_skin_tone", "👊🏿"),
    ("oncoming_fist_light_skin_tone", "👊🏻"), ("oncoming_fist_medium-dark_skin_tone", "👊🏾"),
    ("oncoming_fist_medium-light_skin_tone", "👊🏼"), ("oncoming_fist_medium_skin_tone", "👊🏽"),
    ("oncoming_police_car", "🚔"), ("oncoming_taxi", "🚖"), ("one", "1️⃣"),
    ("one-piece_swimsuit", "🩱"), ("one-thirty", "🕜"), ("one_o’clock", "🕐"), ("onion", "🧅"),
    ("open_book", "📖"), ("open_file_folder", "📂"), ("open_hands", "👐"),
    ("open_hands_dark_skin_tone", "👐🏿"), ("open_hands_light_skin_tone", "👐🏻"),
    ("open_hands_medium-dark_skin_tone", "👐🏾"), ("open_hands_medium-light_skin_tone", "👐🏼"),
    ("open_hands_medium_skin_tone", "👐🏽"), ("open_mailbox_with_lowered_flag", "📭"),
    ("open_mailbox_with_raised_flag", "📬"), ("open_mouth", "😮"), ("ophiuchus", "⛎"),
    ("optical_disk", "💿"), ("orange_book", "📙"), ("orange_circle", "🟠"), ("orange_heart", "🧡"),
    ("orange_square", "🟧"), ("orangutan", "🦧"), ("orthodox_cross", "☦"), ("otter", "🦦"),
    ("outbox_tray", "📤"), ("owl", "🦉"), ("ox", "🐂"), ("oyster", "🦪"), ("p_button", "🅿"),
    ("package", "📦"), ("page_facing_up", "📄"), ("page_with_curl", "📃"), ("pager", "📟"),
    ("paintbrush", "🖌"), ("pakistan", "🇵🇰"), ("palau", "🇵🇼"), ("palestinian_territories", "🇵🇸"),
    ("palm_tree", "🌴"), ("palms_up_together", "🤲"), ("palms_up_together_dark_skin_tone", "🤲🏿"),
    ("palms_up_together_light_skin_tone", "🤲🏻"), ("palms_up_together_medium-dark_skin_tone", "🤲🏾"),
    ("palms_up_together_medium-light_skin_tone", "🤲🏼"),
    ("palms_up_together_medium_skin_tone", "🤲🏽"), ("panama", "🇵🇦"), ("pancakes", "🥞"),
    ("panda_face", "🐼"), ("paperclip", "📎"), ("papua_new_guinea", "🇵🇬"), ("paraguay", "🇵🇾"),
    ("parking", "🅿"), ("parrot", "🦜"), ("part_alternation_mark", "〽"), ("partly_sunny", "⛅"),
    ("party_popper", "🎉"), ("partying_face", "🥳"), ("passenger_ship", "🛳"),
    ("passport_control", "🛂"), ("pause_button", "⏸"), ("paw_prints", "🐾"), ("peace_symbol", "☮"),
    ("peach", "🍑"), ("peacock", "🦚"), ("peanuts", "🥜"), ("pear", "🍐"), ("pen", "🖊"),
    ("pencil", "📝"), ("pencil2", "✏"), ("penguin", "🐧"), ("pensive", "😔"), ("pensive_face", "😔"),
    ("people_holding_hands", "🧑‍🤝‍🧑"), ("people_with_bunny_ears", "👯"), ("people_wrestling", "🤼"),
    ("performing_arts", "🎭"), ("persevere", "😣"), ("persevering_face", "😣"),
    ("person_biking", "🚴"), ("person_biking_dark_skin_tone", "🚴🏿"),
    ("person_biking_light_skin_tone", "🚴🏻"), ("person_biking_medium-dark_skin_tone", "🚴🏾"),
    ("person_biking_medium-light_skin_tone", "🚴🏼"), ("person_biking_medium_skin_tone", "🚴🏽"),
    ("person_bouncing_ball", "⛹"), ("person_bouncing_ball_dark_skin_tone", "⛹🏿"),
    ("person_bouncing_ball_light_skin_tone", "⛹🏻"),
    ("person_bouncing_ball_medium-dark_skin_tone", "⛹🏾"),
    ("person_bouncing_ball_medium-light_skin_tone", "⛹🏼"),
    ("person_bouncing_ball_medium_skin_tone", "⛹🏽"), ("person_bowing", "🙇"),
    ("person_bowing_dark_skin_tone", "🙇🏿"), ("person_bowing_light_skin_tone", "🙇🏻"),
    ("person_bowing_medium-dark_skin_tone", "🙇🏾"), ("person_bowing_medium-light_skin_tone", "🙇🏼"),
    ("person_bowing_medium_skin_tone", "🙇🏽"), ("person_cartwheeling", "🤸"),
    ("person_cartwheeling_dark_skin_tone", "🤸🏿"), ("person_cartwheeling_light_skin_tone", "🤸🏻"),
    ("person_cartwheeling_medium-dark_skin_tone", "🤸🏾"),
    ("person_cartwheeling_medium-light_skin_tone", "🤸🏼"),
    ("person_cartwheeling_medium_skin_tone", "🤸🏽"), ("person_climbing", "🧗"),
    ("person_climbing_dark_skin_tone", "🧗🏿"), ("person_climbing_light_skin_tone", "🧗🏻"),
    ("person_climbing_medium-dark_skin_tone", "🧗🏾"),
    ("person_climbing_medium-light_skin_tone", "🧗🏼"), ("person_climbing_medium_skin_tone", "🧗🏽"),
    ("person_facepalming", "🤦"), ("person_facepalming_dark_skin_tone", "🤦🏿"),
    ("person_facepalming_light_skin_tone", "🤦🏻"),
    ("person_facepalming_medium-dark_skin_tone", "🤦🏾"),
    ("person_facepalming_medium-light_skin_tone", "🤦🏼"),
    ("person_facepalming_medium_skin_tone", "🤦🏽"), ("person_fencing", "🤺"),
    ("person_frowning", "🙍"), ("person_frowning_dark_skin_tone", "🙍🏿"),
    ("person_frowning_light_skin_tone", "🙍🏻"), ("person_frowning_medium-dark_skin_tone", "🙍🏾"),
    ("person_frowning_medium-light_skin_tone", "🙍🏼"), ("person_frowning_medium_skin_tone", "🙍🏽"),
    ("person_gesturing_no", "🙅"), ("person_gesturing_no_dark_skin_tone", "🙅🏿"),
    ("person_gesturing_no_light_skin_tone", "🙅🏻"),
    ("person_gesturing_no_medium-dark_skin_tone", "🙅🏾"),
    ("person_gesturing_no_medium-light_skin_tone", "🙅🏼"),
    ("person_gesturing_no_medium_skin_tone", "🙅🏽"), ("person_gesturing_ok", "🙆"),
    ("person_gesturing_ok_dark_skin_tone", "🙆🏿"), ("person_gesturing_ok_light_skin_tone", "🙆🏻"),
    ("person_gesturing_ok_medium-dark_skin_tone", "🙆🏾"),
    ("person_gesturing_ok_medium-light_skin_tone", "🙆🏼"),
    ("person_gesturing_ok_medium_skin_tone", "🙆🏽"), ("person_getting_haircut", "💇"),
    ("person_getting_haircut_dark_skin_tone", "💇🏿"),
    ("person_getting_haircut_light_skin_tone", "💇🏻"),
    ("person_getting_haircut_medium-dark_skin_tone", "💇🏾"),
    ("person_getting_haircut_medium-light_skin_tone", "💇🏼"),
    ("person_getting_haircut_medium_skin_tone", "💇🏽"), ("person_getting_massage", "💆"),
    ("person_getting_massage_dark_skin_tone", "💆🏿"),
    ("person_getting_massage_light_skin_tone", "💆🏻"),
    ("person_getting_massage_medium-dark_skin_tone", "💆🏾"),
    ("person_getting_massage_medium-light_skin_tone", "💆🏼"),
    ("person_getting_massage_medium_skin_tone", "💆🏽"), ("person_golfing", "🏌"),
    ("person_golfing_dark_skin_tone", "🏌🏿"), ("person_golfing_light_skin_tone", "🏌🏻"),
    ("person_golfing_medium-dark_skin_tone", "🏌🏾"),
    ("person_golfing_medium-light_skin_tone", "🏌🏼"), ("person_golfing_medium_skin_tone", "🏌🏽"),
    ("person_in_bed", "🛌"), ("person_in_bed_dark_skin_tone", "🛌🏿"),
    ("person_in_bed_light_skin_tone", "🛌🏻"), ("person_in_bed_medium-dark_skin_tone", "🛌🏾"),
    ("person_in_bed_medium-light_skin_tone", "🛌🏼"), ("person_in_bed_medium_skin_tone", "🛌🏽"),
    ("person_in_lotus_position", "🧘"), ("person_in_lotus_position_dark_skin_tone", "🧘🏿"),
    ("person_in_lotus_position_light_skin_tone", "🧘🏻"),
    ("person_in_lotus_position_medium-dark_skin_tone", "🧘🏾"),
    ("person_in_lotus_position_medium-light_skin_tone", "🧘🏼"),
    ("person_in_lotus_position_medium_skin_tone", "🧘🏽"), ("person_in_steamy_room", "🧖"),
    ("person_in_steamy_room_dark_skin_tone", "🧖🏿"),
    ("person_in_steamy_room_light_skin_tone", "🧖🏻"),
    ("person_in_steamy_room_medium-dark_skin_tone", "🧖🏾"),
    ("person_in_steamy_room_medium-light_skin_tone", "🧖🏼"),
    ("person_in_steamy_room_medium_skin_tone", "🧖🏽"), ("person_juggling", "🤹"),
    ("person_juggling_dark_skin_tone", "🤹🏿"), ("person_juggling_light_skin_tone", "🤹🏻"),
    ("person_juggling_medium-dark_skin_tone", "🤹🏾"),
    ("person_juggling_medium-light_skin_tone", "🤹🏼"), ("person_juggling_medium_skin_tone", "🤹🏽"),
    ("person_kneeling", "🧎"), ("person_lifting_weights", "🏋"),
    ("person_lifting_weights_dark_skin_tone", "🏋🏿"),
    ("person_lifting_weights_light_skin_tone", "🏋🏻"),
    ("person_lifting_weights_medium-dark_skin_tone", "🏋🏾"),
    ("person_lifting_weights_medium-light_skin_tone", "🏋🏼"),
    ("person_lifting_weights_medium_skin_tone", "🏋🏽"), ("person_mountain_biking", "🚵"),
    ("person_mountain_biking_dark_skin_tone", "🚵🏿"),
    ("person_mountain_biking_light_skin_tone", "🚵🏻"),
    ("person_mountain_biking_medium-dark_skin_tone", "🚵🏾"),
    ("person_mountain_biking_medium-light_skin_tone", "🚵🏼"),
    ("person_mountain_biking_medium_skin_tone", "🚵🏽"), ("person_playing_handball", "🤾"),
    ("person_playing_handball_dark_skin_tone", "🤾🏿"),
    ("person_playing_handball_light_skin_tone", "🤾🏻"),
    ("person_playing_handball_medium-dark_skin_tone", "🤾🏾"),
    ("person_playing_handball_medium-light_skin_tone", "🤾🏼"),
    ("person_playing_handball_medium_skin_tone", "🤾🏽"), ("person_playing_water_polo", "🤽"),
    ("person_playing_water_polo_dark_skin_tone", "🤽🏿"),
    ("person_playing_water_polo_light_skin_tone", "🤽🏻"),
    ("person_playing_water_polo_medium-dark_skin_tone", "🤽🏾"),
    ("person_playing_water_polo_medium-light_skin_tone", "🤽🏼"),
    ("person_playing_water_polo_medium_skin_tone", "🤽🏽"), ("person_pouting", "🙎"),
    ("person_pouting_dark_skin_tone", "🙎🏿"), ("person_pouting_light_skin_tone", "🙎🏻"),
    ("person_pouting_medium-dark_skin_tone", "🙎🏾"),
    ("person_pouting_medium-light_skin_tone", "🙎🏼"), ("person_pouting_medium_skin_tone", "🙎🏽"),
    ("person_raising_hand", "🙋"), ("person_raising_hand_dark_skin_tone", "🙋🏿"),
    ("person_raising_hand_light_skin_tone", "🙋🏻"),
    ("person_raising_hand_medium-dark_skin_tone", "🙋🏾"),
    ("person_raising_hand_medium-light_skin_tone", "🙋🏼"),
    ("person_raising_hand_medium_skin_tone", "🙋🏽"), ("person_rowing_boat", "🚣"),
    ("person_rowing_boat_dark_skin_tone", "🚣🏿"), ("person_rowing_boat_light_skin_tone", "🚣🏻"),
    ("person_rowing_boat_medium-dark_skin_tone", "🚣🏾"),
    ("person_rowing_boat_medium-light_skin_tone", "🚣🏼"),
    ("person_rowing_boat_medium_skin_tone", "🚣🏽"), ("person_running", "🏃"),
    ("person_running_dark_skin_tone", "🏃🏿"), ("person_running_light_skin_tone", "🏃🏻"),
    ("person_running_medium-dark_skin_tone", "🏃🏾"),
    ("person_running_medium-light_skin_tone", "🏃🏼"), ("person_running_medium_skin_tone", "🏃🏽"),
    ("person_shrugging", "🤷"), ("person_shrugging_dark_skin_tone", "🤷🏿"),
    ("person_shrugging_light_skin_tone", "🤷🏻"), ("person_shrugging_medium-dark_skin_tone", "🤷🏾"),
    ("person_shrugging_medium-light_skin_tone", "🤷🏼"), ("person_shrugging_medium_skin_tone", "🤷🏽"),
    ("person_standing", "🧍"), ("person_surfing", "🏄"), ("person_surfing_dark_skin_tone", "🏄🏿"),
    ("person_surfing_light_skin_tone", "🏄🏻"), ("person_surfing_medium-dark_skin_tone", "🏄🏾"),
    ("person_surfing_medium-light_skin_tone", "🏄🏼"), ("person_surfing_medium_skin_tone", "🏄🏽"),
    ("person_swimming", "🏊"), ("person_swimming_dark_skin_tone", "🏊🏿"),
    ("person_swimming_light_skin_tone", "🏊🏻"), ("person_swimming_medium-dark_skin_tone", "🏊🏾"),
    ("person_swimming_medium-light_skin_tone", "🏊🏼"), ("person_swimming_medium_skin_tone", "🏊🏽"),
    ("person_taking_bath", "🛀"), ("person_taking_bath_dark_skin_tone", "🛀🏿"),
    ("person_taking_bath_light_skin_tone", "🛀🏻"),
    ("person_taking_bath_medium-dark_skin_tone", "🛀🏾"),
    ("person_taking_bath_medium-light_skin_tone", "🛀🏼"),
    ("person_taking_bath_medium_skin_tone", "🛀🏽"), ("person_tipping_hand", "💁"),
    ("person_tipping_hand_dark_skin_tone", "💁🏿"), ("person_tipping_hand_light_skin_tone", "💁🏻"),
    ("person_tipping_hand_medium-dark_skin_tone", "💁🏾"),
    ("person_tipping_hand_medium-light_skin_tone", "💁🏼"),
    ("person_tipping_hand_medium_skin_tone", "💁🏽"), ("person_walking", "🚶"),
    ("person_walking_dark_skin_tone", "🚶🏿"), ("person_walking_light_skin_tone", "🚶🏻"),
    ("person_walking_medium-dark_skin_tone", "🚶🏾"),
    ("person_walking_medium-light_skin_tone", "🚶🏼"), ("person_walking_medium_skin_tone", "🚶🏽"),
    ("person_wearing_turban", "👳"), ("person_wearing_turban_dark_skin_tone", "👳🏿"),
    ("person_wearing_turban_light_skin_tone", "👳🏻"),
    ("person_wearing_turban_medium-dark_skin_tone", "👳🏾"),
    ("person_wearing_turban_medium-light_skin_tone", "👳🏼"),
    ("person_wearing_turban_medium_skin_tone", "👳🏽"), ("person_with_ball", "⛹"),
    ("person_with_blond_hair", "👱"), ("person_with_pouting_face", "🙎"), ("peru", "🇵🇪"),
    ("petri_dish", "🧫"), ("philippines", "🇵🇭"), ("phone", "☎"), ("pick", "⛏"), ("pie", "🥧"),
    ("pig", "🐷"), ("pig2", "🐖"), ("pig_face", "🐷"), ("pig_nose", "🐽"), ("pile_of_poo", "💩"),
    ("pill", "💊"), ("pinching_hand", "🤏"), ("pine_decoration", "🎍"), ("pineapple", "🍍"),
    ("ping_pong", "🏓"), ("pirate_flag", "🏴‍☠️"), ("pisces", "♓"), ("pistol", "🔫"),
    ("pitcairn_islands", "🇵🇳"), ("pizza", "🍕"), ("place_of_worship", "🛐"), ("play_button", "▶"),
    ("play_or_pause_button", "⏯"), ("pleading_face", "🥺"), ("point_down", "👇"),
    ("point_left", "👈"), ("point_right", "👉"), ("point_up", "☝"), ("point_up_2", "👆"),
    ("poland", "🇵🇱"), ("police_car", "🚓"), ("police_car_light", "🚨"), ("police_officer", "👮"),
    ("police_officer_dark_skin_tone", "👮🏿"), ("police_officer_light_skin_tone", "👮🏻"),
    ("police_officer_medium-dark_skin_tone", "👮🏾"),
    ("police_officer_medium-light_skin_tone", "👮🏼"), ("police_officer_medium_skin_tone", "👮🏽"),
    ("poodle", "🐩"), ("pool_8_ball", "🎱"), ("poop", "💩"), ("popcorn", "🍿"), ("portugal", "🇵🇹"),
    ("post_office", "🏣"), ("postal_horn", "📯"), ("postbox", "📮"), ("pot_of_food", "🍲"),
    ("potable_water", "🚰"), ("potato", "🥔"), ("pouch", "👝"), ("poultry_leg", "🍗"), ("pound", "💷"),
    ("pound_banknote", "💷"), ("pouting_cat", "😾"), ("pouting_cat_face", "😾"),
    ("pouting_face", "😡"), ("pray", "🙏"), ("prayer_beads", "📿"), ("pregnant_woman", "🤰"),
    ("pregnant_woman_dark_skin_tone", "🤰🏿"), ("pregnant_woman_light_skin_tone", "🤰🏻"),
    ("pregnant_woman_medium-dark_skin_tone", "🤰🏾"),
    ("pregnant_woman_medium-light_skin_tone", "🤰🏼"), ("pregnant_woman_medium_skin_tone", "🤰🏽"),
    ("pretzel", "🥨"), ("prince", "🤴"), ("prince_dark_skin_tone", "🤴🏿"),
    ("prince_light_skin_tone", "🤴🏻"), ("prince_medium-dark_skin_tone", "🤴🏾"),
    ("prince_medium-light_skin_tone", "🤴🏼"), ("prince_medium_skin_tone", "🤴🏽"), ("princess", "👸"),
    ("princess_dark_skin_tone", "👸🏿"), ("princess_light_skin_tone", "👸🏻"),
    ("princess_medium-dark_skin_tone", "👸🏾"), ("princess_medium-light_skin_tone", "👸🏼"),
    ("princess_medium_skin_tone", "👸🏽"), ("printer", "🖨"), ("probing_cane", "🦯"),
    ("prohibited", "🚫"), ("puerto_rico", "🇵🇷"), ("punch", "👊"), ("purple_circle", "🟣"),
    ("purple_heart", "💜"), ("purple_square", "🟪"), ("purse", "👛"), ("pushpin", "📌"),
    ("put_litter_in_its_place", "🚮")]

end Jet.Emoji
