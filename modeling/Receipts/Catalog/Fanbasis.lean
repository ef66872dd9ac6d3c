import Receipts.Catalog.Basic

/-!
# The Fanbasis template

The payment receipt of a Fanbasis plan: its document as static text and slots, and the
names of the slots in ascending order.
-/

namespace Receipts.Catalog

/-- The document of the Fanbasis template. -/
def fanbasisSegments : List Segment :=
  [
    .text "<!DOCTYPE html>\n",
    .text "<html>\n",
    .text "<head>\n",
    .text "    <meta charset=\"utf-8\">\n",
    .text "    <meta name=\"viewport\" content=\"width=device-width, initial-scale=1.0\">\n",
    .text "    <title>Fanbasis payment receipt</title>\n",
    .text "    <style>\n",
    .text "        body \x7b font-family: Inter, Arial, sans-serif; margin: 0; padding: 0; background-color: #0d0d12; color: #f1f1f5; \x7d\n",
    .text "        .outer \x7b padding: 40px 16px; \x7d\n",
    .text "        .panel \x7b max-width: 520px; margin: 0 auto; background: #18181f; border-radius: 14px; padding: 32px; \x7d\n",
    .text "        .avatar \x7b width: 48px; height: 48px; border-radius: 50%; vertical-align: middle; \x7d\n",
    .text "        .creator \x7b font-size: 16px; font-weight: 600; margin-left: 10px; vertical-align: middle; \x7d\n",
    .text "        .amount \x7b font-size: 36px; font-weight: 800; margin: 28px 0 4px; \x7d\n",
    .text "        .caption \x7b color: #a0a0b2; font-size: 13px; \x7d\n",
    .text "        .rows \x7b width: 100%; border-collapse: collapse; margin-top: 24px; \x7d\n",
    .text "        .rows td \x7b padding: 11px 0; border-top: 1px solid #2a2a35; font-size: 14px; \x7d\n",
    .text "        .rows .v \x7b text-align: right; color: #ffffff; \x7d\n",
    .text "        .legal \x7b max-width: 520px; margin: 18px auto 0; color: #6e6e80; font-size: 11px; text-align: center; \x7d\n",
    .text "        a \x7b color: #b18cff; \x7d\n",
    .text "    </style>\n",
    .text "</head>\n",
    .text "<body>\n",
    .text "    <div class=\"outer\">\n",
    .text "        <div class=\"panel\">\n",
    .text "            <img class=\"avatar\" src=\"",
      .slot "CREATOR_AVATAR_IMAGE",
      .text "\" alt=\"\">\n",
    .text "            <span class=\"creator\">", .slot "CREATOR_NAME", .text "</span>\n",
    .text "\n",
    .text "            <p class=\"amount\">$", .slot "AMOUNT", .text "</p>\n",
    .text "            <p class=\"caption\">",
      .slot "BUYER_NAME",
      .text ", thank you for supporting ",
      .slot "CREATOR_NAME",
      .text " on Fanbasis.</p>\n",
    .text "\n",
    .text "            <table class=\"rows\" role=\"presentation\">\n",
    .text "                <tr>\n",
    .text "                    <td>Plan</td>\n",
    .text "                    <td class=\"v\">", .slot "PLAN_NAME", .text "</td>\n",
    .text "                </tr>\n",
    .text "                <tr>\n",
    .text "                    <td>Billing date</td>\n",
    .text "                    <td class=\"v\">", .slot "BILLING_DATE", .text "</td>\n",
    .text "                </tr>\n",
    .text "                <tr>\n",
    .text "                    <td>Card</td>\n",
    .text "                    <td class=\"v\">Card ending in ",
      .slot "CARD_LAST4",
      .text "</td>\n",
    .text "                </tr>\n",
    .text "                <tr>\n",
    .text "                    <td>Transaction ID</td>\n",
    .text "                    <td class=\"v\">", .slot "TRANSACTION_ID", .text "</td>\n",
    .text "                </tr>\n",
    .text "                <tr>\n",
    .text "                    <td>Receipt sent to</td>\n",
    .text "                    <td class=\"v\">", .slot "BUYER_EMAIL", .text "</td>\n",
    .text "                </tr>\n",
    .text "            </table>\n",
    .text "        </div>\n",
    .text "        <p class=\"legal\">You can manage or cancel your membership at any time. Billing questions go to <a href=\"mailto:",
      .slot "SUPPORT_EMAIL",
      .text "\">",
      .slot "SUPPORT_EMAIL",
      .text "</a>.</p>\n",
    .text "    </div>\n",
    .text "</body>\n",
    .text "</html>\n"]

/-- The Fanbasis template. -/
def fanbasis : PlatformTemplate where
  id := "fanbasis"
  name := "Fanbasis"
  subject := "Your Fanbasis payment receipt"
  segments := fanbasisSegments
  placeholders :=
    ["AMOUNT", "BILLING_DATE", "BUYER_EMAIL", "BUYER_NAME", "CARD_LAST4",
     "CREATOR_AVATAR_IMAGE", "CREATOR_NAME", "PLAN_NAME", "SUPPORT_EMAIL", "TRANSACTION_ID"]

end Receipts.Catalog
